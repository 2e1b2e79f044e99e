import ZeroError.Proofs.ScannerSteps
import ZeroError.Settings.Writing

/-!
The tokens of settings as they are written. Main statement: every line of a written configuration
gives its own tokens, whatever the texts in it are.
-/

namespace ZeroError.Yaml

/-- What the style of an item says about its text. -/
theorem styleOf_cases (text : String) :
    styleOf text = .plain ∧ IsPlain text.toList ∨
      styleOf text = .singleQuoted ∧ IsSingle text.toList ∨
      styleOf text = .doubleQuoted ∨
      styleOf text = .literal ∧ text.toList ≠ [] ∧ ∀ c ∈ text.toList, isPrintable c = true := by
  by_cases feed : text.toList.contains '\n' = true
  · by_cases block : (Traits.of text.toList).allowsBlock = true
    · refine Or.inr (Or.inr (Or.inr ⟨?_, ?_, ?_⟩))
      · simp only [styleOf, feed, block, if_true]
      · exact List.ne_nil_of_mem (List.contains_iff_mem.mp feed)
      · simp only [Traits.allowsBlock, Traits.of, Bool.not_eq_true', Bool.or_eq_false_iff] at block
        exact printable_of_not_special block.1.1
    · refine Or.inr (Or.inr (Or.inl ?_))
      simp only [styleOf, feed, block, if_true, Bool.false_eq_true, if_false]
  · have noFeed : '\n' ∉ text.toList := fun member => feed (List.contains_iff_mem.mpr member)
    by_cases plain : standsForValue text = false ∧ (Traits.of text.toList).allowsPlain = true
    · refine Or.inl ⟨?_, isPlain_of_allowsPlain ?_ plain.2⟩
      · simp only [styleOf, feed, plain.1, plain.2, if_true, Bool.false_eq_true, if_false]
      · intro empty
        rw [String.toList_eq_nil_iff] at empty
        rw [empty] at plain
        cases plain.1
    · have quoted : styleOf text =
          if (Traits.of text.toList).allowsSingle then .singleQuoted else .doubleQuoted := by
        simp only [styleOf, feed, Bool.false_eq_true, if_false]
        by_cases value : standsForValue text = true
        · rw [if_pos value]
        · rw [if_neg value, if_neg]
          exact fun allowed => plain ⟨Bool.eq_false_iff.mpr value, allowed⟩
      by_cases single : (Traits.of text.toList).allowsSingle = true
      · rw [if_pos single] at quoted
        exact Or.inr (Or.inl ⟨quoted, isSingle_of_allowsSingle noFeed single⟩)
      · rw [if_neg single] at quoted
        exact Or.inr (Or.inr (Or.inl quoted))

example : styleOf "a b" = .plain ∧ styleOf "12" = .singleQuoted ∧ styleOf "\x07" = .doubleQuoted ∧
    styleOf "a\n" = .literal := by decide +kernel

def itemTokens (text : String) : List Token :=
  [.blockEntry, .scalar text (styleOf text)]

namespace Scanner

section

variable {rest : List Char} {index line column : Nat} {tokens result : List Token} {keyAllowed : Bool}

/-- The line break after an item; a block that ends with one needs no further one. -/
def itemEnd (text : String) : List Char :=
  if styleOf text == .literal && text.toList.getLast?.any isBreak then [] else ['\n']

theorem toList_itemLine (text : String) :
    (itemLine text).toList = '-' :: ' ' :: (itemChars text ++ itemEnd text) :=
  String.toList_ofList

private theorem itemEnd_of_ne {text : String} (inLine : styleOf text ≠ .literal) : itemEnd text =
    ['\n'] := by
  rw [itemEnd, beq_false_of_ne inLine]
  rfl

private theorem block_append_itemEnd {text : String} {front : List Char} {last : Char}
    (style : styleOf text = .literal) (ends : text.toList = front ++ [last]) :
    blockChars true (front ++ [last]) ++ itemEnd text = blockChars true (closedText front last) := by
  have breaks : itemEnd text = if isBreak last then [] else ['\n'] := by
    simp only [itemEnd, style, ends, List.getLast?_concat, beq_self_eq_true, Bool.true_and,
      Option.any_some]
  rw [breaks, closedText]
  cases isBreak last with
  | false => exact (blockChars_concat_feed true (front ++ [last])).symm
  | true => simp only [if_true, List.append_nil]

/-- An item of any style is read back. -/
theorem valueRuns_item (text : String) (solid : Solid rest)
    (runs : LineRuns (tokens ++ [Token.scalar text (styleOf text)]) rest result) :
    ValueRuns tokens keyAllowed (itemChars text ++ itemEnd text ++ rest) result := by
  have same : String.ofList text.toList = text := String.ofList_toList
  rw [List.append_assoc]
  rcases styleOf_cases text with ⟨style, plain⟩ | ⟨style, single⟩ | style | ⟨style, nonempty, printable⟩
  · rw [style, ← same] at runs
    rw [itemEnd_of_ne (by rw [style]; decide), itemChars, style]
    exact valueRuns_plain plain solid runs
  · rw [style, ← same] at runs
    rw [itemEnd_of_ne (by rw [style]; decide), itemChars, style, List.append_assoc]
    exact valueRuns_quoted (Or.inl ⟨rfl, rfl, rfl⟩) (fun index line column =>
      scanQuoted_single index line column single (fun impossible => by cases impossible)) solid runs
  · rw [style, ← same] at runs
    rw [itemEnd_of_ne (by rw [style]; decide), itemChars, style, List.append_assoc]
    exact valueRuns_quoted (Or.inr ⟨rfl, rfl, rfl⟩) scanQuoted_double solid runs
  · obtain ⟨front, last, ends⟩ := (List.eq_nil_or_concat text.toList).resolve_left nonempty
    rw [List.concat_eq_append] at ends
    rw [style, ← same, ends] at runs
    rw [ends] at printable
    rw [itemChars, style, ends, ← List.append_assoc, List.append_assoc _ _ (itemEnd text),
      block_append_itemEnd style ends, List.append_assoc]
    exact valueRuns_block printable solid runs

private theorem lineRuns_item (text : String) (solid : Solid rest)
    (runs : LineRuns (tokens ++ itemTokens text) rest result) :
    LineRuns tokens ((itemLine text).toList ++ rest) result := by
  intro index line
  rw [toList_itemLine]
  have next : Runs ⟨⟨' ' :: (itemChars text ++ itemEnd text ++ rest), index + 1, line, 0 + 1⟩,
      tokens ++ [Token.blockEntry], 0, [-1], true, [none]⟩ result := by
    apply valueRuns_item text solid
    rwa [List.append_assoc]
  exact next.of_step (prepare_start (solid_cons _ (by decide)) (lapses_none line)) rfl rfl
    (Nat.lt_succ_self _)

theorem solid_items (patterns : List String) :
    Solid (patterns.flatMap (fun pattern => (itemLine pattern).toList)) := by
  cases patterns with
  | nil => exact solid_nil
  | cons pattern patterns =>
      rw [List.flatMap_cons, toList_itemLine]
      exact solid_cons _ (by decide)

/-- The items of a sequence, line after line to the end of the text. -/
theorem lineRuns_items (patterns : List String) (tokens : List Token) :
    LineRuns tokens (patterns.flatMap (fun pattern => (itemLine pattern).toList))
      (tokens ++ patterns.flatMap itemTokens ++ [Token.blockEnd]) := by
  induction patterns generalizing tokens with
  | nil =>
      rw [List.flatMap_nil, List.flatMap_nil, List.append_nil]
      exact lineRuns_nil tokens
  | cons pattern patterns ih =>
      have later := ih (tokens ++ itemTokens pattern)
      rw [List.append_assoc tokens, ← List.flatMap_cons] at later
      rw [List.flatMap_cons]
      exact lineRuns_item pattern (solid_items patterns) later

end

end Scanner

/-- A setting that is written on one line. -/
def entryChars (entry : String × String) : List Char :=
  entry.1.toList ++ ':' :: ' ' :: (entry.2.toList ++ ['\n'])

def entryTokens (entry : String × String) : List Token :=
  [.key, .scalar entry.1 .plain, .value, .scalar entry.2 .plain]

structure IsEntry (entry : String × String) : Prop where
  name : Scanner.IsKeyName entry.1.toList
  value : IsPlain entry.2.toList

namespace Scanner

section

variable {rest : List Char} {index line : Nat} {tokens result : List Token}

theorem runs_entry {entry : String × String} {indent : Int} {indents : List Int} {opening : List Token}
    (level : AtEntry indent indents opening) (isEntry : IsEntry entry) (solid : Solid rest)
    (runs : LineRuns (tokens ++ opening ++ entryTokens entry) rest result) :
    Runs ⟨⟨entryChars entry ++ rest, index, line, 0⟩, tokens, indent, indents, true, [none]⟩ result := by
  have written : entryChars entry ++ rest =
      entry.1.toList ++ ':' :: ' ' :: (entry.2.toList ++ '\n' :: rest) := by
    simp only [entryChars, List.append_assoc, List.cons_append, List.nil_append]
  rw [written]
  apply runs_key level isEntry.name rfl
  apply valueRuns_plain isEntry.value solid
  rw [String.ofList_toList, String.ofList_toList, List.append_assoc]
  exact runs

theorem solid_entries {entries : List (String × String)} (areEntries : ∀ entry ∈ entries, IsEntry entry)
    (solid : Solid rest) : Solid (entries.flatMap entryChars ++ rest) := by
  cases entries with
  | nil => exact solid
  | cons entry entries =>
      rw [List.flatMap_cons, entryChars, List.append_assoc, List.append_assoc]
      exact solid_plain (areEntries entry List.mem_cons_self).name.isPlain _

private theorem lineRuns_entries {entries : List (String × String)}
    (areEntries : ∀ entry ∈ entries, IsEntry entry) (solid : Solid rest)
    (runs : LineRuns (tokens ++ entries.flatMap entryTokens) rest result) :
    LineRuns tokens (entries.flatMap entryChars ++ rest) result := by
  induction entries generalizing tokens with
  | nil =>
      rw [List.flatMap_nil, List.append_nil] at runs
      exact runs
  | cons entry entries ih =>
      obtain ⟨isEntry, later⟩ := List.forall_mem_cons.mp areEntries
      rw [List.flatMap_cons, ← List.append_assoc] at runs
      rw [List.flatMap_cons, List.append_assoc]
      intro index line
      apply runs_entry (Or.inr ⟨rfl, rfl, rfl⟩) isEntry (solid_entries later solid)
      rw [List.append_nil]
      exact ih later runs

/-- The first entry opens the mapping. -/
theorem runs_firstEntry {entry : String × String} {entries : List (String × String)}
    (areEntries : ∀ other ∈ entry :: entries, IsEntry other) (solid : Solid rest)
    (runs : LineRuns ([Token.blockMappingStart] ++ (entry :: entries).flatMap entryTokens) rest
      result) :
    Runs ⟨⟨(entry :: entries).flatMap entryChars ++ rest, 0, 0, 0⟩, [], -1, [], true, [none]⟩
      result := by
  obtain ⟨isEntry, later⟩ := List.forall_mem_cons.mp areEntries
  rw [List.flatMap_cons, ← List.append_assoc] at runs
  rw [List.flatMap_cons, List.append_assoc]
  exact runs_entry (Or.inl ⟨rfl, rfl, rfl⟩) isEntry (solid_entries later solid)
    (lineRuns_entries later solid runs)

end

end Scanner

def excludeTokens (patterns : List String) : List Token :=
  [.key, .scalar "exclude" .plain, .value] ++
    if patterns.isEmpty then [.flowSequenceStart, .flowSequenceEnd] else patterns.flatMap itemTokens

namespace Scanner

/-- Brackets without items, after the name of the last setting. -/
theorem valueRuns_brackets (tokens : List Token) :
    ValueRuns tokens false ['[', ']', '\n']
      (tokens ++ [Token.flowSequenceStart, .flowSequenceEnd] ++ [Token.blockEnd]) := by
  intro index line column
  rw [List.append_cons tokens]
  have closed : Runs ⟨⟨['\n'], index + 1 + 1 + 1, line, column + 1 + 1 + 1⟩,
      tokens ++ [Token.flowSequenceStart] ++ [Token.flowSequenceEnd], 0, [-1], false, [none]⟩
      (tokens ++ [Token.flowSequenceStart] ++ [Token.flowSequenceEnd] ++ [Token.blockEnd]) :=
    (lineRuns_nil _).of_feed solid_nil (lapses_none _)
  have opened : Runs ⟨⟨[']', '\n'], index + 1 + 1, line, column + 1 + 1⟩,
      tokens ++ [Token.flowSequenceStart], 0, [-1], true, [none, none]⟩
      (tokens ++ [Token.flowSequenceStart] ++ [Token.flowSequenceEnd] ++ [Token.blockEnd]) :=
    closed.of_step (prepare_eq (skipGap_solid _ (solid_cons _ (by decide))) rfl
      (Int.natCast_nonneg (column + 1 + 1))) rfl rfl (Nat.lt_succ_self _)
  exact opened.of_step (prepare_space (solid_cons _ (by decide))) rfl rfl
    (Nat.lt_succ_of_lt (Nat.lt_succ_self 2))

theorem isKeyName_exclude : IsKeyName "exclude".toList :=
  isKeyName_of_all (by decide)

theorem toList_excludeLines {patterns : List String} (nonempty : patterns ≠ []) :
    (Settings.excludeLines patterns).toList =
      "exclude".toList ++ ':' :: '\n' ::
        patterns.flatMap (fun pattern => (itemLine pattern).toList) := by
  rw [Settings.excludeLines, if_neg (mt List.isEmpty_iff.mp nonempty), String.toList_append,
    String.toList_join, List.flatMap_map]
  rfl

private theorem solid_exclude (patterns : List String) : Solid
    (Settings.excludeLines patterns).toList := by
  cases patterns with
  | nil => exact solid_plain isKeyName_exclude.isPlain [':', ' ', '[', ']', '\n']
  | cons pattern patterns =>
      rw [toList_excludeLines (List.cons_ne_nil pattern patterns)]
      exact solid_plain isKeyName_exclude.isPlain _

/-- The patterns are a sequence below their name, or brackets after it if there are none. -/
theorem lineRuns_exclude (patterns : List String) (tokens : List Token) :
    LineRuns tokens (Settings.excludeLines patterns).toList
      (tokens ++ excludeTokens patterns ++ [Token.blockEnd]) := by
  intro index line
  rw [excludeTokens, ← List.append_assoc]
  cases patterns with
  | nil =>
      have written : (Settings.excludeLines []).toList =
          "exclude".toList ++ ':' :: ' ' :: ['[', ']', '\n'] := rfl
      have brackets := valueRuns_brackets (tokens ++ [Token.key, .scalar "exclude" .plain, .value])
      rw [written]
      apply runs_key (Or.inr ⟨rfl, rfl, rfl⟩) isKeyName_exclude rfl
      rw [List.append_nil, String.ofList_toList]
      exact brackets _ _ _
  | cons pattern patterns =>
      have items := lineRuns_items (pattern :: patterns)
        (tokens ++ [Token.key, .scalar "exclude" .plain, .value])
      rw [toList_excludeLines (List.cons_ne_nil pattern patterns)]
      apply runs_key (Or.inr ⟨rfl, rfl, rfl⟩) isKeyName_exclude rfl
      rw [List.append_nil, String.ofList_toList]
      exact items.of_feed (solid_items _) (lapses_none _)

end Scanner

/-- The settings that are written on one line each, with their names. -/
def lineEntries (settings : Settings) : List (String × String) :=
  [("verbosity", settings.verbosity.name), ("color", settings.color.name),
    ("format", settings.format.name), ("jobs", toString settings.jobs.toNat),
    ("fail_on_diagnostics", if settings.failOnDiagnostics then "true" else "false")]

def settingsTokens (settings : Settings) : List Token :=
  .blockMappingStart :: ((lineEntries settings).flatMap entryTokens ++
    (excludeTokens settings.exclude ++ [.blockEnd]))

private theorem toList_line (name value : String) :
    (name ++ ": " ++ value ++ "\n").toList = entryChars (name, value) := by
  rw [String.toList_append, String.toList_append, String.toList_append, List.append_assoc,
    List.append_assoc]
  rfl

theorem toList_toYaml (settings : Settings) :
    settings.toYaml.toList =
      (lineEntries settings).flatMap entryChars ++ (Settings.excludeLines settings.exclude).toList := by
  have verbosity : "verbosity: " = "verbosity" ++ ": " := rfl
  have color : "color: " = "color" ++ ": " := rfl
  have format : "format: " = "format" ++ ": " := rfl
  have jobs : "jobs: " = "jobs" ++ ": " := rfl
  have failOnDiagnostics : "fail_on_diagnostics: " = "fail_on_diagnostics" ++ ": " := rfl
  unfold Settings.toYaml lineEntries
  simp only [verbosity, color, format, jobs, failOnDiagnostics, List.flatMap_cons, List.flatMap_nil,
    ← toList_line, ← String.toList_append, String.append_assoc, List.append_nil]

theorem toList_toString (value : Nat) : (toString value).toList = Nat.toDigits 10 value :=
  Nat.toList_repr

private theorem isEntry_of_names {name value : String}
    (keyName : name.toList ≠ [] ∧ name.toList.all isNameChar = true ∧ name.toList.length ≤ 1024)
    (plain : value.toList ≠ [] ∧ value.toList.all isNameChar = true) : IsEntry (name, value) :=
  ⟨Scanner.isKeyName_of_all keyName, isPlain_of_name plain.1 (List.all_eq_true.mp plain.2)⟩

theorem isEntry_of_mem_lineEntries {settings : Settings} {entry : String × String}
    (member : entry ∈ lineEntries settings) : IsEntry entry := by
  simp only [lineEntries, List.mem_cons, List.not_mem_nil, or_false] at member
  rcases member with rfl | rfl | rfl | rfl | rfl
  · apply isEntry_of_names (by decide)
    cases settings.verbosity <;> decide
  · apply isEntry_of_names (by decide)
    cases settings.color <;> decide
  · apply isEntry_of_names (by decide)
    cases settings.format <;> decide
  · apply isEntry_of_names (by decide)
    rw [toList_toString]
    exact ⟨Nat.toDigits_ne_nil, List.all_eq_true.mpr (fun c digit => isNameChar_of_mem_toDigits digit)⟩
  · apply isEntry_of_names (by decide)
    cases settings.failOnDiagnostics <;> decide

-- Whatever a pattern holds, the text that is written has no character that a text must not have.

private theorem isAllowed_of_mem_toDigits {value : Nat} {c : Char}
    (member : c ∈ Nat.toDigits 16 value) :
    isAllowed c.toUpper = true := by
  have known {digit : Nat} (small : digit < 16) : isAllowed (Nat.digitChar digit).toUpper = true := by
    decide +revert
  obtain ⟨digit, small, rfl⟩ := Document.exists_digitChar_of_mem_toDigits (by omega) member
  exact known small

private theorem all_isAllowed_paddedHex (width value : Nat) :
    (paddedHex width value).all isAllowed = true := by
  rw [List.all_eq_true]
  intro c member
  rcases List.mem_append.mp member with zero | digit
  · rw [List.eq_of_mem_replicate zero]
    rfl
  · obtain ⟨lower, inDigits, rfl⟩ := List.mem_map.mp digit
    exact isAllowed_of_mem_toDigits inDigits

private theorem all_isAllowed_escaped (c : Char) : (escaped c).all isAllowed = true := by
  rw [escaped]
  split
  · rename_i letter known
    rw [escapeLetter?] at known
    split at known <;> cases known <;> rfl
  · split
    · exact all_isAllowed_paddedHex 2 c.toNat
    · split
      · exact all_isAllowed_paddedHex 4 c.toNat
      · exact all_isAllowed_paddedHex 8 c.toNat

private theorem all_isAllowed_doubleQuotedChar (c : Char) :
    (doubleQuotedChar c).all isAllowed = true := by
  rw [doubleQuotedChar]
  by_cases printable : isPrintable c = true
  · split
    · exact all_isAllowed_escaped c
    · rw [List.all_cons, isAllowed_of_isPrintable printable]
      rfl
  · rw [Bool.eq_false_iff.mpr printable]
    exact all_isAllowed_escaped c

theorem all_isAllowed_margin (afterBreak : Bool) :
    (if afterBreak then margin else []).all isAllowed = true := by
  cases afterBreak <;> rfl

private theorem all_isAllowed_singleQuotedChars {text : List Char}
    (allowed : text.all isAllowed = true)
    (afterBreak : Bool) : (singleQuotedChars afterBreak text).all isAllowed = true := by
  induction text generalizing afterBreak with
  | nil => exact all_isAllowed_margin afterBreak
  | cons c text ih =>
      rw [List.all_cons, Bool.and_eq_true] at allowed
      rw [singleQuotedChars]
      split
      · rw [List.all_cons, allowed.1, ih allowed.2]
        rfl
      · rw [List.all_append, List.all_append, all_isAllowed_margin, ih allowed.2, Bool.true_and,
          Bool.and_true]
        split
        · rfl
        · rw [List.all_cons, allowed.1]
          rfl

private theorem all_isAllowed_blockChars {text : List Char} (allowed : text.all isAllowed = true)
    (afterBreak : Bool) : (blockChars afterBreak text).all isAllowed = true := by
  induction text generalizing afterBreak with
  | nil => rfl
  | cons c text ih =>
      rw [List.all_cons, Bool.and_eq_true] at allowed
      rw [blockChars]
      split
      · rw [List.all_cons, allowed.1, ih allowed.2]
        rfl
      · rw [List.all_append, List.all_cons, all_isAllowed_margin, allowed.1, ih allowed.2]
        rfl

private theorem all_isAllowed_blockHeader (text : List Char) :
    (blockHeader text).all isAllowed = true := by
  rw [blockHeader]
  simp only [List.all_append, List.all_cons, Bool.and_eq_true]
  refine ⟨⟨⟨rfl, ?_⟩, ?_⟩, rfl, rfl⟩
  · split <;> rfl
  · split
    · split
      · rfl
      · split <;> rfl
    · rfl

theorem all_isAllowed_of_printable {text : List Char} (printable : ∀ c ∈ text, isPrintable c = true) :
    text.all isAllowed = true :=
  List.all_eq_true.mpr (fun c member => isAllowed_of_isPrintable (printable c member))

theorem all_isAllowed_flatMap {α : Type} {parts : List α} {write : α → List Char}
    (allowed : ∀ part ∈ parts, (write part).all isAllowed = true) :
    (parts.flatMap write).all isAllowed = true := by
  rw [List.all_flatMap, List.all_eq_true]
  exact allowed

private theorem all_isAllowed_itemChars (text : String) :
    (itemChars text).all isAllowed = true := by
  rw [itemChars]
  rcases styleOf_cases text with ⟨style, plain⟩ | ⟨style, single⟩ | style | ⟨style, _, printable⟩
  · rw [style]
    exact all_isAllowed_of_printable plain.printable
  · rw [style]
    simp only [List.all_append, List.all_cons,
      all_isAllowed_singleQuotedChars (all_isAllowed_of_printable single.printable)]
    rfl
  · rw [style]
    simp only [List.all_append, List.all_cons,
      all_isAllowed_flatMap (fun c _ => all_isAllowed_doubleQuotedChar c)]
    rfl
  · rw [style]
    simp only [List.all_append, all_isAllowed_blockHeader,
      all_isAllowed_blockChars (all_isAllowed_of_printable printable)]
    rfl

private theorem all_isAllowed_itemLine (text : String) :
    (itemLine text).toList.all isAllowed = true := by
  rw [Scanner.toList_itemLine]
  simp only [List.all_cons, List.all_append, all_isAllowed_itemChars]
  rw [Scanner.itemEnd]
  split <;> rfl

private theorem all_isAllowed_excludeLines (patterns : List String) :
    (Settings.excludeLines patterns).toList.all isAllowed = true := by
  cases patterns with
  | nil => rfl
  | cons pattern patterns =>
      rw [Scanner.toList_excludeLines (List.cons_ne_nil pattern patterns), List.all_append,
        List.all_cons, List.all_cons, all_isAllowed_flatMap (fun item _ => all_isAllowed_itemLine item)]
      rfl

private theorem all_isAllowed_entryChars {entry : String × String} (isEntry : IsEntry entry) :
    (entryChars entry).all isAllowed = true := by
  simp only [entryChars, List.all_append, List.all_cons,
    all_isAllowed_of_printable isEntry.name.isPlain.printable,
    all_isAllowed_of_printable isEntry.value.printable]
  rfl

theorem all_isAllowed_toYaml (settings : Settings) : settings.toYaml.toList.all isAllowed = true := by
  rw [toList_toYaml, List.all_append, all_isAllowed_excludeLines, Bool.and_true]
  exact all_isAllowed_flatMap
    (fun _ member => all_isAllowed_entryChars (isEntry_of_mem_lineEntries member))

private theorem tokens_of_runs {text : String} {result : List Token}
    (allowed : text.toList.all isAllowed = true)
    (runs : Scanner.Runs ⟨⟨text.toList, 0, 0, 0⟩, [], -1, [], true, [none]⟩ result) :
    tokens text = .ok result := by
  rw [tokens, if_pos allowed]
  exact runs _ (Nat.lt_succ_self _)

/-- Written settings are split into the tokens of their entries. -/
theorem tokens_toYaml (settings : Settings) :
    tokens settings.toYaml = .ok (settingsTokens settings) := by
  have last := Scanner.lineRuns_exclude settings.exclude
    ([Token.blockMappingStart] ++ (lineEntries settings).flatMap entryTokens)
  rw [List.append_assoc, List.append_assoc] at last
  apply tokens_of_runs (all_isAllowed_toYaml settings)
  rw [toList_toYaml]
  exact Scanner.runs_firstEntry (fun _ member => isEntry_of_mem_lineEntries member)
    (Scanner.solid_exclude settings.exclude) last

end ZeroError.Yaml
