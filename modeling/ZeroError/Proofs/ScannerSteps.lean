import ZeroError.Proofs.Attempts
import ZeroError.Proofs.BlockScalars
import ZeroError.Proofs.QuotedScalars
import ZeroError.Yaml.Token

/-!
The scanner of configuration texts, token by token. Main statements: a name with its colon, and a
scalar of any style after an indicator, give their tokens and leave the scanner at the start of the
next line.
-/

namespace ZeroError.Yaml

namespace Scanner

/-- The scanner before its next token: gaps are skipped, keys that are out of reach are given up and
collections that are further in are closed. -/
def prepare (scanner : Scanner) : Except Fault Scanner := do
  let scanner ← (scanner.skipGap (scanner.cursor.rest.length + 1)).dropStaleKeys
  return scanner.unrollIndent scanner.cursor.column

section

variable {scanner ready next : Scanner} {c : Char} {rest : List Char} {fuel : Nat}

private theorem takeAll_of_takeToken (prepared : scanner.prepare = .ok ready)
    (here : ready.cursor.rest = c :: rest) (taken : ready.takeToken c = .ok next) :
    takeAll (fuel + 1) scanner = takeAll fuel next := by
  obtain ⟨kept, dropped, same⟩ := Attempts.bind_eq_ok_iff.mp prepared
  cases same
  rw [takeAll, dropped]
  simp only [bind, Except.bind, here, taken]

private theorem takeAll_of_prepared (prepared : scanner.prepare = .ok ready)
    (again : ready.prepare = .ok ready) :
    takeAll (fuel + 1) scanner = takeAll (fuel + 1) ready := by
  obtain ⟨kept, dropped, same⟩ := Attempts.bind_eq_ok_iff.mp prepared
  obtain ⟨keptAgain, droppedAgain, sameAgain⟩ := Attempts.bind_eq_ok_iff.mp again
  have leveled : kept.unrollIndent kept.cursor.column = ready := Except.ok.inj same
  have leveledAgain : keptAgain.unrollIndent keptAgain.cursor.column = ready := Except.ok.inj sameAgain
  rw [takeAll, takeAll, dropped, droppedAgain]
  simp only [bind, Except.bind, leveled, leveledAgain]

/-- All tokens are taken, with any fuel that suffices for the characters that are left. -/
def Runs (scanner : Scanner) (tokens : List Token) : Prop :=
  ∀ fuel, scanner.cursor.rest.length < fuel → scanner.takeAll fuel = .ok tokens

theorem Runs.of_step {tokens : List Token} (runs : next.Runs tokens)
    (prepared : scanner.prepare = .ok ready) (here : ready.cursor.rest = c :: rest)
    (taken : ready.takeToken c = .ok next)
    (shorter : next.cursor.rest.length < scanner.cursor.rest.length) : scanner.Runs tokens := by
  intro fuel enough
  obtain ⟨before, rfl⟩ : ∃ before, fuel = before + 1 := ⟨fuel - 1, by omega⟩
  rw [takeAll_of_takeToken prepared here taken]
  apply runs
  omega

theorem Runs.of_prepared {tokens : List Token} (runs : ready.Runs tokens)
    (prepared : scanner.prepare = .ok ready) (again : ready.prepare = .ok ready)
    (shorter : ready.cursor.rest.length ≤ scanner.cursor.rest.length) : scanner.Runs tokens := by
  intro fuel enough
  obtain ⟨before, rfl⟩ : ∃ before, fuel = before + 1 := ⟨fuel - 1, by omega⟩
  rw [takeAll_of_prepared prepared again]
  apply runs
  omega

end

/-- What is left of a text starts with something to read, or nothing is left. -/
def Solid (rest : List Char) : Prop :=
  ∀ c ∈ rest.head?, isInk c = true ∧ c ≠ '#' ∧ c ≠ '\ufeff'

theorem solid_nil : Solid [] := by
  intro c head
  cases head

theorem solid_cons {c : Char} (rest : List Char) (starts : isInk c = true ∧ c ≠ '#' ∧ c ≠ '\ufeff') :
    Solid (c :: rest) := by
  intro d head
  cases head
  exact starts

section

variable {rest : List Char} {index line column : Nat} {tokens : List Token} {indent : Int}
  {indents : List Int} {keyAllowed : Bool} {keys : List (Option PossibleKey)}
  {key : Option PossibleKey}

/-- A tab counts as a blank only in some places, but is never the start of something. -/
theorem takeWhile_solid (solid : Solid rest) (tabs : Bool) :
    rest.takeWhile (fun c => c == ' ' || (tabs && c == '\t')) = [] := by
  cases rest with
  | nil => rfl
  | cons c rest =>
      have notBlank := (isInk_iff.mp (solid c rfl).1).1
      rw [isBlank, Bool.or_eq_false_iff] at notBlank
      apply List.takeWhile_cons_of_neg
      rw [notBlank.1, notBlank.2, Bool.and_false, Bool.or_self]
      exact Bool.false_ne_true

private theorem takeWhile_space (solid : Solid rest) (tabs : Bool) :
    (' ' :: rest).takeWhile (fun c => c == ' ' || (tabs && c == '\t')) = [' '] := by
  rw [List.takeWhile_cons_of_pos rfl, takeWhile_solid solid]

theorem Solid.isAt (solid : Solid rest) {other : Char} (excluded : other = '#' ∨ other = '\ufeff') :
    Cursor.isAt ⟨rest, index, line, column⟩ 0 other = false := by
  cases rest with
  | nil => rfl
  | cons c rest =>
      obtain ⟨_, notComment, notMark⟩ := solid c rfl
      rcases excluded with rfl | rfl
      · exact Cursor.isAt_zero_of_ne notComment
      · exact Cursor.isAt_zero_of_ne notMark

theorem Solid.noBreak (solid : Solid rest) :
    (Cursor.peek? ⟨rest, index, line, column⟩ 0).any isBreak = false := by
  cases rest with
  | nil => rfl
  | cons c rest => exact (isInk_iff.mp (solid c rfl).1).2

theorem skipGap_solid (fuel : Nat) (solid : Solid rest) :
    skipGap (fuel + 1) ⟨⟨rest, index, line, column⟩, tokens, indent, indents, keyAllowed, keys⟩ =
      ⟨⟨rest, index, line, column⟩, tokens, indent, indents, keyAllowed, keys⟩ := by
  rw [skipGap]
  simp only [solid.isAt (Or.inr rfl), Bool.and_false, Bool.false_eq_true, if_false, Cursor.dropWhile,
    Cursor.takeWhile, takeWhile_solid solid, List.length_nil, List.drop_zero, Nat.add_zero,
    solid.isAt (Or.inl rfl), solid.noBreak]

private theorem skipGap_space (fuel : Nat) (solid : Solid rest) :
    skipGap (fuel + 1)
      ⟨⟨' ' :: rest, index, line, column⟩, tokens, indent, indents, keyAllowed, keys⟩ =
        ⟨⟨rest, index + 1, line, column + 1⟩, tokens, indent, indents, keyAllowed, keys⟩ := by
  have notMark : Cursor.isAt ⟨' ' :: rest, index, line, column⟩ 0 '\ufeff' = false := rfl
  rw [skipGap]
  simp only [notMark, Bool.and_false, Bool.false_eq_true, if_false, Cursor.dropWhile, Cursor.takeWhile,
    takeWhile_space solid, List.length_singleton, List.drop_succ_cons, List.drop_zero,
    solid.isAt (Or.inl rfl), solid.noBreak]

private theorem skipGap_feed (fuel : Nat) (solid : Solid rest) :
    skipGap (fuel + 2)
      ⟨⟨'\n' :: rest, index, line, column⟩, tokens, indent, indents, keyAllowed, [key]⟩ =
        ⟨⟨rest, index + 1, line + 1, 0⟩, tokens, indent, indents, true, [key]⟩ := by
  have notMark : Cursor.isAt ⟨'\n' :: rest, index, line, column⟩ 0 '\ufeff' = false := rfl
  have stays (tabs : Bool) :
      ('\n' :: rest).takeWhile (fun c => c == ' ' || (tabs && c == '\t')) = [] := by
    apply List.takeWhile_cons_of_neg
    change ¬(tabs && false) = true
    rw [Bool.and_false]
    exact Bool.false_ne_true
  have skipped : skipGap (fuel + 2)
      ⟨⟨'\n' :: rest, index, line, column⟩, tokens, indent, indents, keyAllowed, [key]⟩ =
        skipGap (fuel + 1)
          ⟨⟨rest, index + 1, line + 1, 0⟩, tokens, indent, indents, keyAllowed || true, [key]⟩ := by
    rw [skipGap]
    simp only [notMark, Bool.and_false, Bool.false_eq_true, if_false, Cursor.dropWhile,
      Cursor.takeWhile, stays, List.length_nil, List.drop_zero, Nat.add_zero]
    rfl
  rw [skipped, skipGap_solid fuel solid, Bool.or_true]

end

private theorem unrollIndent_self {scanner : Scanner} {column : Int}
    (level : scanner.indent ≤ column) :
    scanner.unrollIndent column = scanner := by
  rw [unrollIndent]
  split
  · rfl
  · cases scanner.indents with
    | nil => rfl
    | cons outer rest => rw [unrollIndents, if_neg (Int.not_lt.mpr level)]

theorem prepare_eq {scanner skipped kept : Scanner}
    (gap : scanner.skipGap (scanner.cursor.rest.length + 1) = skipped)
    (dropped : skipped.dropStaleKeys = .ok kept) (level : kept.indent ≤ kept.cursor.column) :
    scanner.prepare = .ok kept := by
  rw [prepare, gap, dropped]
  exact congrArg Except.ok (unrollIndent_self level)

/-- A possible key that need not be one and is on an earlier line. -/
def Lapses (key : Option PossibleKey) (line : Nat) : Prop :=
  ∀ possible ∈ key, possible.required = false ∧ possible.line < line

section

variable {rest : List Char} {index line column : Nat} {tokens result : List Token} {indent : Int}
  {indents : List Int} {keyAllowed : Bool} {key : Option PossibleKey}

theorem dropStaleKeys_lapsed (lapses : Lapses key line) :
    dropStaleKeys ⟨⟨rest, index, line, column⟩, tokens, indent, indents, keyAllowed, [key]⟩ =
      .ok ⟨⟨rest, index, line, column⟩, tokens, indent, indents, keyAllowed, [none]⟩ := by
  cases key with
  | none => rfl
  | some possible =>
      obtain ⟨optional, earlier⟩ := lapses possible rfl
      have stale : isStale ⟨rest, index, line, column⟩ possible = true := by
        rw [isStale, decide_eq_true earlier, Bool.true_or]
      simp only [dropStaleKeys, List.mapM_cons, List.mapM_nil, stale, optional, if_true,
        Bool.false_eq_true, if_false]
      rfl

/-- The scanner at the start of a line inside of the outermost mapping. -/
def lineStart (tokens : List Token) (rest : List Char) (index line : Nat) : Scanner :=
  ⟨⟨rest, index, line, 0⟩, tokens, 0, [-1], true, [none]⟩

/-- From the start of a line on, all tokens are taken. -/
def LineRuns (tokens : List Token) (rest : List Char) (result : List Token) : Prop :=
  ∀ index line, (lineStart tokens rest index line).Runs result

theorem prepare_start (solid : Solid rest) (lapses : Lapses key line) :
    prepare ⟨⟨rest, index, line, 0⟩, tokens, 0, [-1], true, [key]⟩ =
      .ok (lineStart tokens rest index line) :=
  prepare_eq (skipGap_solid _ solid) (dropStaleKeys_lapsed lapses) (Int.le_refl 0)

theorem lapses_none (line : Nat) : Lapses none line := by
  intro possible impossible
  cases impossible

theorem LineRuns.of_start (runs : LineRuns tokens rest result) (solid : Solid rest)
    (lapses : Lapses key line) :
    Runs ⟨⟨rest, index, line, 0⟩, tokens, 0, [-1], true, [key]⟩ result :=
  (runs index line).of_prepared (prepare_start solid lapses) (prepare_start solid (lapses_none line))
    (Nat.le_refl _)

theorem LineRuns.of_feed (runs : LineRuns tokens rest result) (solid : Solid rest)
    (lapses : Lapses key (line + 1)) :
    Runs ⟨⟨'\n' :: rest, index, line, column⟩, tokens, 0, [-1], keyAllowed, [key]⟩ result :=
  (runs (index + 1) (line + 1)).of_prepared
    (prepare_eq (skipGap_feed _ solid) (dropStaleKeys_lapsed lapses) (Int.le_refl 0))
    (prepare_start solid (lapses_none _)) (Nat.le_succ _)

/-- Where nothing is left the mapping is closed. -/
theorem lineRuns_nil (tokens : List Token) : LineRuns tokens [] (tokens ++ [Token.blockEnd]) := by
  intro index line fuel enough
  obtain ⟨before, rfl⟩ : ∃ before, fuel = before + 1 := ⟨fuel - 1, by omega⟩
  rfl

end

private theorem startsAsIndicator_of_isIndicator {c : Char} (indicator : isIndicator c = true) :
    startsAsIndicator [c] = true := by
  have starts : "-?:,[]\x7b\x7d#&*!|>'\"%@`".toList.all (fun c => startsAsIndicator [c]) = true := by
    decide
  rw [isIndicator, List.contains_iff_mem] at indicator
  exact List.all_eq_true.mp starts c indicator

private theorem isIndicator_eq_false {c : Char} {more : List Char}
    (first : startsAsIndicator (c :: more) = false)
    (noMark : (c == '?' || c == ':' || c == '-') = false) : isIndicator c = false := by
  rw [Bool.eq_false_iff]
  intro indicator
  have starts := startsAsIndicator_of_isIndicator indicator
  rw [startsAsIndicator, noMark, Bool.false_and, Bool.or_false] at starts first
  rw [starts] at first
  cases first

section

variable {rest : List Char} {index line column : Nat} {tokens : List Token} {indent : Int}
  {indents : List Int} {keyAllowed : Bool} {key : Option PossibleKey}

private theorem takeToken_of_not_indicator {c : Char} (ink : isInk c = true)
    (plain : isIndicator c = false)
    (notMark : Cursor.isDocumentMark ⟨c :: rest, index, line, column⟩ = false) :
    takeToken ⟨⟨c :: rest, index, line, column⟩, tokens, indent, indents, keyAllowed, [key]⟩ c =
      takePlain ⟨⟨c :: rest, index, line, column⟩, tokens, indent, indents, keyAllowed, [key]⟩ := by
  have differs {other : Char} (indicator : isIndicator other = true) : (c == other) = false := by
    apply beq_false_of_ne
    rintro rfl
    rw [indicator] at plain
    cases plain
  obtain ⟨notBlank, notBreak⟩ := isInk_iff.mp ink
  obtain ⟨notStart, notEnd⟩ := Bool.or_eq_false_iff.mp notMark
  have starts : startsPlain
      ⟨⟨c :: rest, index, line, column⟩, tokens, indent, indents, keyAllowed, [key]⟩ c = true := by
    rw [startsPlain, plain, notBlank, notBreak]
    rfl
  simp only [takeToken, notStart, notEnd, starts, Bool.and_false, Bool.false_and, Bool.false_eq_true,
    if_false, if_true, @differs '%' rfl, @differs '[' rfl, @differs '\x7b' rfl, @differs ']' rfl,
    @differs '\x7d' rfl, @differs ',' rfl, @differs '-' rfl, @differs '?' rfl, @differs ':' rfl,
    @differs '*' rfl, @differs '&' rfl, @differs '!' rfl, @differs '|' rfl, @differs '>' rfl,
    @differs '\x27' rfl, @differs '"' rfl]

private theorem takeToken_of_mark {c d : Char} (mark : c = '?' ∨ c = ':' ∨ c = '-')
    (ink : isInk d = true)
    (notMark : Cursor.isDocumentMark ⟨c :: d :: rest, index, line, column⟩ = false) :
    takeToken ⟨⟨c :: d :: rest, index, line, column⟩, tokens, indent, indents, keyAllowed, [key]⟩ c =
      takePlain
        ⟨⟨c :: d :: rest, index, line, column⟩, tokens, indent, indents, keyAllowed, [key]⟩ := by
  obtain ⟨notBlank, notBreak⟩ := isInk_iff.mp ink
  obtain ⟨notStart, notEnd⟩ := Bool.or_eq_false_iff.mp notMark
  have noGap : Cursor.isGapAt ⟨c :: d :: rest, index, line, column⟩ 1 = false := by
    change (isBlank d || isBreak d) = false
    rw [notBlank, notBreak, Bool.or_self]
  have noBlank : (Cursor.peek? ⟨c :: d :: rest, index, line, column⟩ 1).any isBlank = false := notBlank
  rcases mark with rfl | rfl | rfl
  · simp [takeToken, notStart, notEnd, noGap, startsPlain, inFlow]
  · simp [takeToken, notStart, notEnd, noGap, startsPlain, inFlow]
  · simp [takeToken, notStart, notEnd, noGap, noBlank, startsPlain, inFlow]

/-- A text that can be written as it is starts a plain scalar. -/
theorem takeToken_plain {c : Char} {more after : List Char} (plain : IsPlain (c :: more))
    (notMark : Cursor.isDocumentMark ⟨c :: more ++ after, index, line, column⟩ = false) :
    takeToken ⟨⟨c :: more ++ after, index, line, column⟩, tokens, indent, indents, keyAllowed, [key]⟩ c =
      takePlain
        ⟨⟨c :: more ++ after, index, line, column⟩, tokens, indent, indents, keyAllowed, [key]⟩ := by
  obtain ⟨_, _, same, ink, _, _⟩ := plain.exists_cons
  cases same
  by_cases noMark : (c == '?' || c == ':' || c == '-') = false
  · exact takeToken_of_not_indicator ink (isIndicator_eq_false plain.noIndicatorFirst noMark) notMark
  · have mark := eq_true_of_ne_false noMark
    have followed := (Bool.or_eq_false_iff.mp plain.noIndicatorFirst).2
    rw [mark, Bool.true_and] at followed
    obtain ⟨d, others, rfl, inkNext⟩ := exists_ink_of_not_gap followed
    simp only [Bool.or_eq_true, beq_iff_eq, or_assoc] at mark
    exact takeToken_of_mark mark inkNext notMark

end

theorem solid_plain {text : List Char} (plain : IsPlain text) (rest : List Char) :
    Solid (text ++ rest) := by
  obtain ⟨c, more, rfl, ink, notComment, _⟩ := plain.exists_cons
  apply solid_cons (more ++ rest) ⟨ink, notComment, _⟩
  intro same
  subst same
  cases plain.printable _ List.mem_cons_self

section

variable {name rest : List Char} {gap : Char} {index line column : Nat} {tokens result : List Token}
  {indent : Int} {indents : List Int} {keyAllowed : Bool}

/-- The names of settings: they are made of letters and underlines, and are not too long for a key. -/
structure IsKeyName (name : List Char) : Prop where
  nonempty : name ≠ []
  inName : ∀ c ∈ name, isNameChar c = true
  short : name.length ≤ 1024

theorem isKeyName_of_all
    (keyName : name ≠ [] ∧ name.all isNameChar = true ∧ name.length ≤ 1024) : IsKeyName name :=
  ⟨keyName.1, List.all_eq_true.mp keyName.2.1, keyName.2.2⟩

theorem IsKeyName.isPlain (keyName : IsKeyName name) : IsPlain name :=
  isPlain_of_name keyName.nonempty keyName.inName

theorem isDocumentMark_name {c : Char} (inName : isNameChar c = true) :
    Cursor.isDocumentMark ⟨c :: rest, index, line, column⟩ = false := by
  have notStart : Cursor.isAt ⟨c :: rest, index, line, column⟩ 0 '-' = false :=
    Cursor.isAt_zero_of_ne (ne_of_isNameChar inName rfl)
  have notEnd : Cursor.isAt ⟨c :: rest, index, line, column⟩ 0 '.' = false :=
    Cursor.isAt_zero_of_ne (ne_of_isNameChar inName rfl)
  simp only [Cursor.isDocumentMark, Cursor.isMark, notStart, notEnd, Bool.and_false, Bool.false_and,
    Bool.or_self]

private theorem takePlain_key (keyName : IsKeyName name) (low : indent ≤ 0)
    (isGap : isInk gap = false) :
    takePlain ⟨⟨name ++ ':' :: gap :: rest, index, line, 0⟩, tokens, indent, indents, true, [none]⟩ =
      .ok ⟨⟨':' :: gap :: rest, index + name.length, line, 0 + name.length⟩,
        tokens ++ [Token.scalar (String.ofList name) .plain], indent, indents, false,
        [some ⟨indent == 0, tokens.length, index, line, 0⟩]⟩ := by
  obtain ⟨c, more, rfl⟩ := List.exists_cons_of_ne_nil keyName.nonempty
  have scanned := @IsPlain.scanPlain_colon (indent + 1) index line 0 (c :: more) gap rest
    keyName.isPlain (by omega) (isDocumentMark_name (keyName.inName c List.mem_cons_self)) isGap
  change scanPlain false (indent + 1) ⟨c :: more ++ ':' :: gap :: rest, index, line, 0⟩ >>= _ = _
  rw [scanned]
  rfl

/-- The scanner stands before the first entry of the mapping, which the first entry opens, or before a
later one. -/
def AtEntry (indent : Int) (indents : List Int) (opening : List Token) : Prop :=
  indent = -1 ∧ indents = [] ∧ opening = [.blockMappingStart] ∨
    indent = 0 ∧ indents = [-1] ∧ opening = []

private theorem takeToken_colon {required : Bool} {start : Nat} {opening : List Token}
    {token : Token}
    (level : AtEntry indent indents opening) (isGap : isInk gap = false) :
    takeToken ⟨⟨':' :: gap :: rest, index, line, column⟩, tokens ++ [token], indent, indents, false,
      [some ⟨required, tokens.length, start, line, 0⟩]⟩ ':' =
        .ok ⟨⟨gap :: rest, index + 1, line, column + 1⟩,
          tokens ++ opening ++ [Token.key, token, .value], 0, [-1], false, [none]⟩ := by
  have gapNext : Cursor.isGapAt ⟨':' :: gap :: rest, index, line, column⟩ 1 = true :=
    gap_of_not_isInk isGap
  have notMark (c : Char) (other : c ≠ ':') :
      Cursor.isMark ⟨':' :: gap :: rest, index, line, column⟩ c = false := by
    rw [Cursor.isMark, Cursor.isAt_zero_of_ne other.symm, Bool.and_false, Bool.false_and, Bool.false_and,
      Bool.false_and]
  rw [takeToken]
  simp only [notMark '-' (by decide), notMark '.' (by decide), gapNext, Bool.or_true]
  rcases level with ⟨rfl, rfl, rfl⟩ | ⟨rfl, rfl, rfl⟩
  · simp [takeValue, insertAt, rollIndent, inFlow, takeMark, push, Cursor.skip, Cursor.next, pure,
      Except.pure]
  · simp [takeValue, insertAt, rollIndent, inFlow, takeMark, push, Cursor.skip, Cursor.next, pure,
      Except.pure]

private theorem dropStaleKeys_fresh {required : Bool} {start position : Nat}
    (near : index ≤ start + 1024) :
    dropStaleKeys ⟨⟨rest, index, line, column⟩, tokens, indent, indents, keyAllowed,
      [some ⟨required, position, start, line, 0⟩]⟩ =
        .ok ⟨⟨rest, index, line, column⟩, tokens, indent, indents, keyAllowed,
          [some ⟨required, position, start, line, 0⟩]⟩ := by
  have fresh : isStale ⟨rest, index, line, column⟩ ⟨required, position, start, line, 0⟩ = false := by
    rw [isStale, decide_eq_false (Nat.lt_irrefl line), decide_eq_false (Nat.not_lt.mpr near),
      Bool.or_self]
  simp only [dropStaleKeys, List.mapM_cons, List.mapM_nil, fresh, Bool.false_eq_true, if_false]
  rfl

/-- A name and the colon after it give the tokens of a key. -/
theorem runs_key {opening : List Token} (level : AtEntry indent indents opening)
    (keyName : IsKeyName name) (isGap : isInk gap = false)
    (runs : Runs ⟨⟨gap :: rest, index + name.length + 1, line, 0 + name.length + 1⟩,
      tokens ++ opening ++ [Token.key, .scalar (String.ofList name) .plain, .value], 0, [-1], false,
        [none]⟩ result) :
    Runs ⟨⟨name ++ ':' :: gap :: rest, index, line, 0⟩, tokens, indent, indents, true, [none]⟩
      result := by
  have low : indent ≤ 0 := by
    rcases level with ⟨rfl, _⟩ | ⟨rfl, _⟩ <;> decide
  have solidColon : Solid (':' :: gap :: rest) := solid_cons _ (by decide)
  have afterName : Runs ⟨⟨':' :: gap :: rest, index + name.length, line, 0 + name.length⟩,
      tokens ++ [Token.scalar (String.ofList name) .plain], indent, indents, false,
      [some ⟨indent == 0, tokens.length, index, line, 0⟩]⟩ result := by
    refine runs.of_step (prepare_eq (skipGap_solid _ solidColon)
      (dropStaleKeys_fresh (Nat.add_le_add_left keyName.short index)) ?_) rfl
      (takeToken_colon level isGap) (Nat.lt_succ_self _)
    exact Int.le_trans low (Int.natCast_nonneg _)
  obtain ⟨c, more, rfl⟩ := List.exists_cons_of_ne_nil keyName.nonempty
  refine afterName.of_step (prepare_eq (skipGap_solid _ (solid_plain keyName.isPlain _))
    (dropStaleKeys_lapsed (lapses_none line)) low) rfl ?_ ?_
  · rw [takeToken_plain keyName.isPlain (isDocumentMark_name (keyName.inName c List.mem_cons_self))]
    exact takePlain_key keyName low isGap
  · exact Nat.lt_succ_of_le (List.suffix_append more _).length_le

end

section

variable {rest : List Char} {index line column : Nat} {tokens result : List Token} {keyAllowed : Bool}

/-- What stands after an indicator may be noted as a key, but is given up on a later line. -/
theorem exists_saveKey (rest : List Char) (index line column : Nat) (tokens : List Token)
    (keyAllowed : Bool) :
    ∃ key, (∀ later, line < later → Lapses key later) ∧
      saveKey ⟨⟨rest, index, line, column + 1⟩, tokens, 0, [-1], keyAllowed, [none]⟩ =
        .ok ⟨⟨rest, index, line, column + 1⟩, tokens, 0, [-1], keyAllowed, [key]⟩ := by
  cases keyAllowed with
  | false => exact ⟨none, fun later _ => lapses_none later, rfl⟩
  | true =>
      refine ⟨some ⟨(0 : Int) == ((column + 1 : Nat) : Int), tokens.length, index, line, column + 1⟩,
        ?_, rfl⟩
      intro later below possible same
      cases same
      exact ⟨beq_false_of_ne (by omega), below⟩

theorem prepare_space (solid : Solid rest) :
    prepare ⟨⟨' ' :: rest, index, line, column⟩, tokens, 0, [-1], keyAllowed, [none]⟩ =
      .ok ⟨⟨rest, index + 1, line, column + 1⟩, tokens, 0, [-1], keyAllowed, [none]⟩ :=
  prepare_eq (skipGap_space _ solid) (dropStaleKeys_lapsed (lapses_none line))
    (Int.natCast_nonneg (column + 1))

/-- From the blank after an indicator on, all tokens are taken. -/
def ValueRuns (tokens : List Token) (keyAllowed : Bool) (rest : List Char) (result : List Token) :
    Prop :=
  ∀ index line column,
    Runs ⟨⟨' ' :: rest, index, line, column⟩, tokens, 0, [-1], keyAllowed, [none]⟩ result

/-- A plain scalar ends with its line. -/
theorem valueRuns_plain {text : List Char} (plain : IsPlain text) (solid : Solid rest)
    (runs : LineRuns (tokens ++ [Token.scalar (String.ofList text) .plain]) rest result) :
    ValueRuns tokens keyAllowed (text ++ '\n' :: rest) result := by
  intro index line column
  obtain ⟨key, lapses, saved⟩ := exists_saveKey (text ++ '\n' :: rest) (index + 1) line column tokens
    keyAllowed
  have notMark := @Cursor.isDocumentMark_of_column
    ⟨text ++ '\n' :: rest, index + 1, line, column + 1⟩ (Nat.succ_ne_zero column)
  have next : Runs ⟨⟨rest, index + 1 + text.length + 1, line + 1, 0⟩,
      tokens ++ [Token.scalar (String.ofList text) .plain], 0, [-1], true, [key]⟩ result :=
    runs.of_start solid (lapses (line + 1) (Nat.lt_succ_self line))
  -- the line feed ends the scalar, since what stands on the next line is not further in
  have taken : takePlain ⟨⟨text ++ '\n' :: rest, index + 1, line, column + 1⟩, tokens, 0, [-1],
      keyAllowed, [none]⟩ = .ok ⟨⟨rest, index + 1 + text.length + 1, line + 1, 0⟩,
        tokens ++ [Token.scalar (String.ofList text) .plain], 0, [-1], true, [key]⟩ := by
    rw [takePlain, saved]
    change scanPlain false 1 ⟨text ++ '\n' :: rest, index + 1, line, column + 1⟩ >>= _ = _
    rw [plain.scanPlain_line notMark (fun c head => (solid c head).1)]
    rfl
  have shorter : rest.length < (' ' :: (text ++ '\n' :: rest)).length := by
    simp only [List.length_cons, List.length_append]
    omega
  obtain ⟨c, more, rfl⟩ := List.exists_cons_of_ne_nil plain.nonempty
  exact next.of_step (prepare_space (solid_plain plain _)) rfl
    ((takeToken_plain plain notMark).trans taken) shorter

/-- The quotes that can stand around a text, and how such a text is read and called. -/
def AreQuotes (quote : Char) (single : Bool) (style : Style) : Prop :=
  quote = '\x27' ∧ single = true ∧ style = .singleQuoted ∨
    quote = '"' ∧ single = false ∧ style = .doubleQuoted

private theorem takeToken_quote {quote : Char} {single : Bool} {style : Style}
    (quotes : AreQuotes quote single style) :
    takeToken ⟨⟨quote :: rest, index, line, column + 1⟩, tokens, 0, [-1], keyAllowed, [none]⟩ quote =
      takeContent ⟨⟨quote :: rest, index, line, column + 1⟩, tokens, 0, [-1], keyAllowed, [none]⟩
        (fun cursor => do
          let (text, cursor) ← scanQuoted single cursor
          return (.scalar text style, cursor)) := by
  rcases quotes with ⟨rfl, rfl, rfl⟩ | ⟨rfl, rfl, rfl⟩
  · rfl
  · rfl

/-- After the closing quote the line ends. -/
theorem valueRuns_quoted {quote : Char} {single : Bool} {style : Style} {written text : List Char}
    (quotes : AreQuotes quote single style)
    (scanned : ∀ index line column, ∃ index' line' column', line ≤ line' ∧
      scanQuoted single ⟨quote :: (written ++ quote :: '\n' :: rest), index, line, column⟩ =
        .ok (String.ofList text, ⟨'\n' :: rest, index', line', column'⟩))
    (solid : Solid rest)
    (runs : LineRuns (tokens ++ [Token.scalar (String.ofList text) style]) rest result) :
    ValueRuns tokens keyAllowed (quote :: (written ++ quote :: '\n' :: rest)) result := by
  intro index line column
  obtain ⟨key, lapses, saved⟩ := exists_saveKey (quote :: (written ++ quote :: '\n' :: rest))
    (index + 1) line column tokens keyAllowed
  obtain ⟨index', line', column', below, read⟩ := scanned (index + 1) line (column + 1)
  have next : Runs ⟨⟨'\n' :: rest, index', line', column'⟩,
      tokens ++ [Token.scalar (String.ofList text) style], 0, [-1], false, [key]⟩ result :=
    runs.of_feed solid (lapses (line' + 1) (Nat.lt_succ_of_le below))
  have starts : isInk quote = true ∧ quote ≠ '#' ∧ quote ≠ '\ufeff' := by
    rcases quotes with ⟨rfl, _⟩ | ⟨rfl, _⟩ <;> decide
  refine next.of_step (prepare_space (solid_cons _ starts)) rfl ((takeToken_quote quotes).trans ?_) ?_
  · rw [takeContent, saved]
    simp only [bind, Except.bind, read]
    rfl
  · simp only [List.length_cons, List.length_append]
    omega

/-- A block ends at the start of a line. -/
theorem valueRuns_block {front : List Char} {last : Char}
    (printable : ∀ c ∈ front ++ [last], isPrintable c = true) (solid : Solid rest)
    (runs : LineRuns (tokens ++ [Token.scalar (String.ofList (front ++ [last])) .literal]) rest
      result) :
    ValueRuns tokens keyAllowed
      (blockHeader (front ++ [last]) ++ (blockChars true (closedText front last) ++ rest)) result := by
  intro index line column
  obtain ⟨index', line', _, scanned⟩ := @exists_scanBlock front rest last (index + 1) line (column + 1)
    printable (fun c head => (solid c head).1)
  have next : Runs ⟨⟨rest, index', line', 0⟩,
      tokens ++ [Token.scalar (String.ofList (front ++ [last])) .literal], 0, [-1], true, [none]⟩
        result :=
    runs.of_start solid (lapses_none line')
  obtain ⟨more, header⟩ : ∃ more, blockHeader (front ++ [last]) = '|' :: more := ⟨_, rfl⟩
  rw [header] at scanned ⊢
  refine next.of_step (prepare_space (solid_cons _ (by decide))) rfl ?_ ?_
  · change takeBlock ⟨⟨'|' :: more ++ (blockChars true (closedText front last) ++ rest), index + 1,
      line, column + 1⟩, tokens, 0, [-1], keyAllowed, [none]⟩ true = _
    rw [takeBlock]
    simp only [dropKey, bind, Except.bind, scanned]
    rfl
  · simp only [List.length_cons, List.length_append]
    omega

end

end Scanner

end ZeroError.Yaml
