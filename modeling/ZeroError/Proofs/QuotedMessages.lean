import ZeroError.Presentation
import ZeroError.Proofs.QuotedScalars
import ZeroError.Proofs.SourceFiles

/-!
Messages quote what the front end named. A quoted character and the end of its quoted form can be told
from the text, so different texts have different messages, and no control character is left in them.
Main statement: a rendering as text has one line for each diagnostic, whatever the names are.
-/

namespace ZeroError.Text

/-- The characters that have a mark of their own after the backslash. -/
def markedChars : List (Char × Char) :=
  [('"', '"'), ('\\', '\\'), ('\x00', '0'), ('\t', 't'), ('\n', 'n'), ('\r', 'r')]

/-- How a character stands in a quoted text. -/
inductive Quoted : Char → List Char → Prop
  | itself {c : Char} (notQuote : c ≠ '"') (notBackslash : c ≠ '\\') (shown : isHidden c = false) :
      Quoted c [c]
  | marked {c mark : Char} (known : (c, mark) ∈ markedChars) : Quoted c ['\\', mark]
  | coded (c : Char) : Quoted c (['\\', 'u', '\x7b'] ++ hexDigits c.toNat ++ ['\x7d'])

theorem quoted_quoteChar (c : Char) : Quoted c (quoteChar c) := by
  by_cases short : c ∈ markedChars.map Prod.fst
  · simp only [markedChars, List.map_cons, List.map_nil, List.mem_cons, List.not_mem_nil,
      or_false] at short
    rcases short with rfl | rfl | rfl | rfl | rfl | rfl
    all_goals exact .marked (by decide)
  · simp only [markedChars, List.map_cons, List.map_nil, List.mem_cons, List.not_mem_nil, or_false,
      not_or] at short
    obtain ⟨notQuote, notBackslash, others⟩ := short
    cases hidden : isHidden c with
    | true =>
        have form : quoteChar c = ['\\', 'u', '\x7b'] ++ hexDigits c.toNat ++ ['\x7d'] := by
          simp only [quoteChar, notQuote, notBackslash, others, hidden, if_true, if_false]
        rw [form]
        exact .coded c
    | false =>
        have form : quoteChar c = [c] := by
          simp only [quoteChar, notQuote, notBackslash, others, hidden, if_false,
            Bool.false_eq_true]
        rw [form]
        exact .itself notQuote notBackslash hidden

private theorem mark_injective {c d mark : Char} (first : (c, mark) ∈ markedChars)
    (second : (d, mark) ∈ markedChars) : c = d := by
  have distinct : ∀ one ∈ markedChars, ∀ another ∈ markedChars, one.2 = another.2 →
      one.1 = another.1 := by
    decide
  exact distinct _ first _ second rfl

private theorem mark_ne_u {c mark : Char} (known : (c, mark) ∈ markedChars) : mark ≠ 'u' := by
  rintro rfl
  have absent : 'u' ∉ markedChars.map Prod.snd := by decide
  exact absent (List.mem_map_of_mem known)

private theorem hexDigits_injective {value other : Nat} (same : hexDigits value = hexDigits other) :
    value = other := by
  have read := Yaml.hexNumber?_toDigits value
  rw [← hexDigits, same, hexDigits, Yaml.hexNumber?_toDigits] at read
  exact (Option.some.inj read).symm

private theorem closing_notMem_hexDigits (value : Nat) : '\x7d' ∉ hexDigits value := by
  intro member
  have other : ∀ digit < 16, '\x7d' ≠ Nat.digitChar digit := by decide
  obtain ⟨digit, small, same⟩ := Document.exists_digitChar_of_mem_toDigits (by omega) member
  exact other digit small same

private theorem append_cons_cancel {closing : Char} {inside other rest more : List Char}
    (first : closing ∉ inside) (second : closing ∉ other)
    (same : inside ++ closing :: rest = other ++ closing :: more) : inside = other ∧ rest = more := by
  have place := congrArg (List.idxOf closing) same
  rw [List.idxOf_append_of_notMem first, List.idxOf_append_of_notMem second, List.idxOf_cons_self,
    List.idxOf_cons_self] at place
  obtain ⟨insides, tails⟩ := List.append_inj same place
  exact ⟨insides, (List.cons.inj tails).2⟩

/-- A quoted character and what follows it can be told from the text. -/
theorem Quoted.cancel {c d : Char} {text other rest more : List Char} (first : Quoted c text)
    (second : Quoted d other) (same : text ++ rest = other ++ more) : c = d ∧ rest = more := by
  cases first with
  | itself _ notBackslash _ =>
      cases second with
      | itself _ _ _ =>
          cases same
          exact ⟨rfl, rfl⟩
      | marked _ => exact absurd (List.cons.inj same).1 notBackslash
      | coded => exact absurd (List.cons.inj same).1 notBackslash
  | marked known =>
      cases second with
      | itself _ notBackslash _ => exact absurd (List.cons.inj same).1.symm notBackslash
      | marked knownToo =>
          cases same
          exact ⟨mark_injective known knownToo, rfl⟩
      | coded => exact absurd (List.cons.inj (List.cons.inj same).2).1 (mark_ne_u known)
  | coded =>
      cases second with
      | itself _ notBackslash _ => exact absurd (List.cons.inj same).1.symm notBackslash
      | marked known => exact absurd (List.cons.inj (List.cons.inj same).2).1.symm (mark_ne_u known)
      | coded =>
          simp only [List.append_assoc, List.append_cancel_left_eq, List.singleton_append] at same
          obtain ⟨digits, rests⟩ := append_cons_cancel (closing_notMem_hexDigits c.toNat)
            (closing_notMem_hexDigits d.toNat) same
          exact ⟨Char.toNat_inj.mp (hexDigits_injective digits), rests⟩

/-- The closing quote of a quoted text is not taken for a quoted character. -/
theorem Quoted.append_ne_quote {c : Char} {text : List Char} (quoted : Quoted c text)
    (rest more : List Char) : text ++ rest ≠ '"' :: more := by
  intro same
  cases quoted with
  | itself notQuote _ _ => exact notQuote (List.cons.inj same).1
  | marked _ => exact absurd (List.cons.inj same).1 (by decide)
  | coded => exact absurd (List.cons.inj same).1 (by decide)

private theorem le_toNat_of_not_isHidden {c : Char} (shown : isHidden c = false) :
    0x20 ≤ c.toNat := by
  unfold isHidden at shown
  split at shown
  · exact Nat.le_of_not_lt (of_decide_eq_false shown)
  · omega

private theorem Quoted.no_control {c x : Char} {text : List Char} (quoted : Quoted c text)
    (member : x ∈ text) : 0x20 ≤ x.toNat := by
  cases quoted with
  | itself _ _ shown =>
      rw [List.mem_singleton.mp member]
      exact le_toNat_of_not_isHidden shown
  | marked known =>
      have marks : ∀ entry ∈ markedChars, 0x20 ≤ entry.2.toNat := by decide
      rcases List.mem_pair.mp member with rfl | rfl
      · decide
      · exact marks _ known
  | coded =>
      have digits : ∀ digit < 16, 0x20 ≤ (Nat.digitChar digit).toNat := by decide
      rcases List.mem_append.mp member with earlier | last
      · rcases List.mem_append.mp earlier with opening | inside
        · have signs : ['\\', 'u', '\x7b'].all (0x20 ≤ ·.toNat) = true := rfl
          exact of_decide_eq_true (List.all_eq_true.mp signs x opening)
        · obtain ⟨digit, small, rfl⟩ :=
            Document.exists_digitChar_of_mem_toDigits (by omega) inside
          exact digits digit small
      · rw [List.mem_singleton.mp last]
        decide

/-- A quoted text and what follows it can be told apart. -/
theorem quoteChars_cancel {chars others rest more : List Char}
    (same : quoteChars chars ++ '"' :: rest = quoteChars others ++ '"' :: more) :
    chars = others ∧ rest = more := by
  induction chars generalizing others with
  | nil =>
      cases others with
      | nil => exact ⟨rfl, (List.cons.inj same).2⟩
      | cons d others =>
          rw [quoteChars, quoteChars, List.flatMap_cons, List.append_assoc] at same
          exact absurd same.symm ((quoted_quoteChar d).append_ne_quote _ _)
  | cons c chars ih =>
      cases others with
      | nil =>
          rw [quoteChars, quoteChars, List.flatMap_cons, List.append_assoc] at same
          exact absurd same ((quoted_quoteChar c).append_ne_quote _ _)
      | cons d others =>
          rw [quoteChars, quoteChars, List.flatMap_cons, List.flatMap_cons, List.append_assoc,
            List.append_assoc] at same
          obtain ⟨rfl, tails⟩ := (quoted_quoteChar c).cancel (quoted_quoteChar d) same
          obtain ⟨rfl, rests⟩ := ih tails
          exact ⟨rfl, rests⟩

theorem quote_injective : Function.Injective quote := by
  intro first second same
  have chars := String.ofList_injective same
  exact String.toList_inj.mp (quoteChars_cancel (List.cons.inj chars).2).1

theorem no_control_quote {text : String} {x : Char} (member : x ∈ (quote text).toList) :
    0x20 ≤ x.toNat := by
  rw [quote, String.toList_ofList, List.cons_append, List.mem_cons, List.mem_append] at member
  rcases member with rfl | inside | last
  · decide
  · obtain ⟨c, _, part⟩ := List.mem_flatMap.mp inside
    exact (quoted_quoteChar c).no_control part
  · rw [List.mem_singleton.mp last]
    decide

end ZeroError.Text

namespace ZeroError.Analysis

open ZeroError.Go

theorem messageFor_injective : Function.Injective messageFor := by
  intro first second same
  unfold messageFor at same
  exact Text.quote_injective ((String.append_right_inj _).mp same)

theorem no_control_messageFor {rendered : String} {x : Char}
    (member : x ∈ (messageFor rendered).toList) : 0x20 ≤ x.toNat := by
  unfold messageFor at member
  rw [String.toList_append, List.mem_append] at member
  rcases member with fixed | quoted
  · have words : ("uninitialized custom error returned ".toList).all (0x20 ≤ ·.toNat) = true := by
      decide +kernel
    exact of_decide_eq_true (List.all_eq_true.mp words x fixed)
  · exact Text.no_control_quote quoted

private theorem message_ofReturned {file function : String} {returned : Expr}
    {diagnostic : Diagnostic}
    (made : Diagnostic.ofReturned file function returned = .ok diagnostic) :
    diagnostic.message = messageFor diagnostic.rendered := by
  cases returned with
  | ident ident =>
      obtain ⟨rendered, _, same⟩ := Attempts.bind_eq_ok_iff.mp made
      cases same
      rfl
  | _ => cases made

/-- What a run reports lies in a file of the package and quotes what was returned. -/
theorem origin_of_mem_diagnostics {jobs : Nat} {package : Package} {report : Report}
    {diagnostic : Diagnostic} (ran : run jobs package = .ok report)
    (member : diagnostic ∈ report.diagnostics) :
    (∃ file ∈ package.files, diagnostic.file = file.path) ∧
      diagnostic.message = messageFor diagnostic.rendered := by
  rw [run_eq_reportOf] at ran
  obtain ⟨outcomes, settled, rfl⟩ := Attempts.map_eq_ok_iff.mp ran
  obtain ⟨outcome, listed, reported⟩ := List.mem_filterMap.mp member
  obtain ⟨entry, among, settledHere⟩ := Attempts.exists_of_mem_mapM settled listed
  obtain ⟨returned, made⟩ := exists_ofReturned_of_outcomeOf settledHere reported
  obtain ⟨file, inPackage, ofFile⟩ := List.mem_flatMap.mp among
  obtain ⟨func, _, rfl⟩ := List.mem_map.mp ofFile
  exact ⟨⟨file, inPackage, file_ofReturned made⟩, message_ofReturned made⟩

private theorem newline_notMem_toString (value : Nat) : '\n' ∉ (toString value).toList := by
  intro member
  have digits : ('\n' : Char).isDigit = false := rfl
  have digit := Nat.isDigit_of_mem_toDigits (by omega) (by omega)
    (Nat.toList_repr (n := value) ▸ member)
  exact absurd (digits.symm.trans digit) Bool.false_ne_true

private theorem newline_notMem_display {diagnostic : Diagnostic}
    (path : '\n' ∉ diagnostic.file.toList)
    (quotes : diagnostic.message = messageFor diagnostic.rendered) :
    '\n' ∉ diagnostic.display.toList := by
  have message : '\n' ∉ diagnostic.message.toList := by
    intro member
    rw [quotes] at member
    exact absurd (no_control_messageFor member) (by decide)
  simp only [Diagnostic.display, Diagnostic.posn, String.toList_append, List.mem_append, not_or]
  exact ⟨⟨⟨⟨⟨⟨path, by decide⟩, newline_notMem_toString _⟩, by decide⟩, newline_notMem_toString _⟩,
    by decide⟩, message⟩

private theorem splitOn_lines {lines : List (List Char)} (whole : ∀ line ∈ lines, '\n' ∉ line) :
    (lines.flatMap (· ++ ['\n'])).splitOn '\n' = lines ++ [[]] := by
  induction lines with
  | nil => rfl
  | cons line lines ih =>
      obtain ⟨first, others⟩ := List.forall_mem_cons.mp whole
      rw [List.flatMap_cons, List.append_assoc, List.singleton_append,
        List.splitOn_append_cons_self_of_not_mem first, ih others, List.cons_append]

private theorem toList_renderText (reports : List Report) :
    (renderText false reports).toList =
      ((allDiagnostics reports).map (fun diagnostic => diagnostic.display.toList)).flatMap
        (· ++ ['\n']) := by
  rw [renderText, String.toList_join, List.flatMap_map, List.flatMap_map]
  congr 1
  funext diagnostic
  exact String.toList_append

/-- Different texts have different messages, and no message has a control character in it. So if the
paths of the files of some packages have no newline in them, the reports on these packages are shown as
one line for each diagnostic, in their order, and nothing after the last newline. -/
theorem messages_keep_to_their_lines :
    Function.Injective messageFor ∧
    (∀ rendered, ∀ c ∈ (messageFor rendered).toList, 0x20 ≤ c.toNat) ∧
    ∀ reports : List Report,
      (∀ report ∈ reports, ∃ jobs package, run jobs package = .ok report ∧
        ∀ file ∈ package.files, '\n' ∉ file.path.toList) →
      (renderText false reports).toList.splitOn '\n' =
        (allDiagnostics reports).map (fun diagnostic => diagnostic.display.toList) ++ [[]] := by
  refine ⟨messageFor_injective, fun rendered c member => no_control_messageFor member, ?_⟩
  intro reports produced
  rw [toList_renderText]
  apply splitOn_lines
  intro line member
  obtain ⟨diagnostic, listed, rfl⟩ := List.mem_map.mp member
  obtain ⟨report, among, reported⟩ := List.mem_flatMap.mp listed
  obtain ⟨jobs, package, ran, paths⟩ := produced report among
  obtain ⟨⟨file, inPackage, named⟩, quotes⟩ := origin_of_mem_diagnostics ran reported
  apply newline_notMem_display _ quotes
  rw [named]
  exact paths file inPackage

/-- Two names that differ in a newline and its quoted form. -/
def newlinePackage : Package :=
  samplePackage [leaking "first" "a\nb" 7, leaking "second" "a\\nb" 12]

def newlineReport : Report where
  package := "example.com/a"
  diagnostics := [leakIn "b.go" "first" "a\nb" 7 9, leakIn "b.go" "second" "a\\nb" 12 9]
  filesAnalyzed := 2
  functionsAnalyzed := 3
  functionsChecked := 2

theorem messages_keep_to_their_lines_newline :
    run 2 newlinePackage = .ok newlineReport ∧
      (∀ file ∈ newlinePackage.files, '\n' ∉ file.path.toList) ∧
      messageFor "a\nb" ≠ messageFor "a\\nb" ∧
      (∀ c ∈ (messageFor "a\nb").toList, 0x20 ≤ c.toNat) ∧
      (renderText false [newlineReport, newlineReport]).toList.splitOn '\n' =
        ["b.go:7:9: uninitialized custom error returned \"a\\nb\"".toList,
          "b.go:12:9: uninitialized custom error returned \"a\\\\nb\"".toList,
          "b.go:7:9: uninitialized custom error returned \"a\\nb\"".toList,
          "b.go:12:9: uninitialized custom error returned \"a\\\\nb\"".toList, []] := by
  have ran : run 2 newlinePackage = .ok newlineReport := by
    rw [run_eq_reportOf]
    decide +kernel
  have paths : ∀ file ∈ newlinePackage.files, '\n' ∉ file.path.toList := by
    decide
  have produced : ∀ report ∈ [newlineReport, newlineReport], ∃ jobs package,
      run jobs package = .ok report ∧ ∀ file ∈ package.files, '\n' ∉ file.path.toList := by
    intro report member
    rcases List.mem_pair.mp member with rfl | rfl
    all_goals exact ⟨2, newlinePackage, ran, paths⟩
  obtain ⟨injective, visible, lines⟩ := messages_keep_to_their_lines
  refine ⟨ran, paths, injective.ne (by decide), visible "a\nb", ?_⟩
  rw [lines _ produced]
  decide +kernel

end ZeroError.Analysis
