import Mathlib.Data.List.Basic
import Mathlib.Data.List.TakeDrop
import ZeroError.Document.Scanner

/-!
Written values read from their text. A value is spelled in one of two ways, on a single line or with
an item or entry on each line; both are one spelling with blanks in some places. Main statement: the
text of a value whose numbers are words of 64 bits is followed to its end and gives the tree of the
value, in both layouts.
-/

namespace ZeroError.Document

theorem dropBlanks_append {blanks : List Char} (blank : ∀ c ∈ blanks, isBlank c = true)
    (rest : List Char) : dropBlanks (blanks ++ rest) = dropBlanks rest :=
  List.dropWhile_append_of_pos blank

theorem dropBlanks_cons {c : Char} (visible : isBlank c = false) (rest : List Char) :
    dropBlanks (c :: rest) = c :: rest :=
  List.dropWhile_cons_of_neg (by rw [visible]; exact Bool.false_ne_true)

theorem dropBlanks_visible {blanks : List Char} {c : Char}
    (blank : ∀ c ∈ blanks, isBlank c = true) (visible : isBlank c = false) (rest : List Char) :
    dropBlanks (blanks ++ c :: rest) = c :: rest := by
  rw [dropBlanks_append blank, dropBlanks_cons visible]

/-! ### Numbers -/

/-- Text that cannot be part of a number written before it. -/
def CannotContinue (rest : List Char) : Prop :=
  ∀ c ∈ rest.head?, c.isDigit = false ∧ c ≠ '.' ∧ c ≠ 'e' ∧ c ≠ 'E'

theorem exists_digitChar_of_mem_toDigits {base value : Nat} {c : Char} (positional : 1 < base)
    (member : c ∈ Nat.toDigits base value) : ∃ digit < base, c = Nat.digitChar digit := by
  induction value using Nat.strongRecOn with
  | ind value ih =>
      rw [Nat.toDigits_eq_if positional] at member
      split at member
      · rename_i small
        exact ⟨value, small, List.mem_singleton.mp member⟩
      · rename_i large
        have shrinks : value / base < value := Nat.div_lt_self (by omega) positional
        rcases List.mem_append.mp member with earlier | last
        · exact ih (value / base) shrinks earlier
        · exact ⟨value % base, Nat.mod_lt value (by omega), List.mem_singleton.mp last⟩

theorem head_toDigits {value : Nat} (positive : 0 < value) :
    (Nat.toDigits 10 value).head? ≠ some '0' := by
  induction value using Nat.strongRecOn with
  | ind value ih =>
      rw [Nat.toDigits_eq_if (by omega)]
      split
      · rename_i small
        intro zero
        have digit : Nat.digitChar value = '0' := Option.some.inj zero
        have number := Nat.toNat_digitChar_sub_48_of_lt_ten small
        rw [digit] at number
        change 0 = value at number
        omega
      · have earlier := ih (value / 10) (by omega) (by omega)
        rw [List.head?_append_of_ne_nil _ Nat.toDigits_ne_nil]
        exact earlier

private theorem digitsValue_toDigits (value : Nat) : digitsValue
    (Nat.toDigits 10 value) = value := by
  have step : (fun (value : Nat) (digit : Char) => value * 10 + (digit.toNat - '0'.toNat)) =
      fun value digit => 10 * value + (digit.toNat - '0'.toNat) := by
    funext value digit
    rw [Nat.mul_comm]
  rw [digitsValue, step]
  exact Nat.ofDigitChars_ten_toDigits

private theorem scanDigits_append {digits rest : List Char} (all : ∀ c ∈ digits, c.isDigit = true)
    (some : digits ≠ []) (ends : CannotContinue rest) :
    scanDigits (digits ++ rest) = .found digits rest := by
  have split : (digits ++ rest).span Char.isDigit = (digits, rest) := by
    rw [List.span_eq_takeWhile_dropWhile, List.takeWhile_append_of_pos all,
      List.dropWhile_append_of_pos all]
    cases rest with
    | nil => rw [List.takeWhile_nil, List.append_nil, List.dropWhile_nil]
    | cons c rest =>
        have stops : ¬c.isDigit = true := by
          rw [(ends c rfl).1]
          exact Bool.false_ne_true
        rw [List.takeWhile_cons_of_neg stops, List.append_nil, List.dropWhile_cons_of_neg stops]
  unfold scanDigits
  rw [split]
  cases digits with
  | nil => exact absurd rfl some
  | cons digit digits => rfl

private theorem scanWhole_toDigits {value : Nat} {rest : List Char} (ends : CannotContinue rest) :
    scanWhole (Nat.toDigits 10 value ++ rest) = .found (Nat.toDigits 10 value) rest := by
  by_cases zero : value = 0
  · subst zero
    rw [Nat.toDigits_zero]
    cases rest with
    | nil => rfl
    | cons c rest =>
        change (if c.isDigit = true then _ else _) = _
        rw [(ends c rfl).1]
        rfl
  · have all : ∀ c ∈ Nat.toDigits 10 value, c.isDigit = true :=
      fun c member => Nat.isDigit_of_mem_toDigits (by omega) (by omega) member
    have leading := head_toDigits (Nat.pos_of_ne_zero zero)
    have scanned := scanDigits_append all Nat.toDigits_ne_nil ends
    cases digits : Nat.toDigits 10 value with
    | nil => exact absurd digits Nat.toDigits_ne_nil
    | cons digit digits' =>
        rw [digits] at leading scanned
        rw [← scanned]
        unfold scanWhole
        split
        · rename_i same
          cases same
          exact absurd rfl leading
        · rfl

private theorem scanNumber_toDigits {value : Nat} {rest : List Char} (bounded : value < UInt64.size)
    (ends : CannotContinue rest) :
    scanNumber false (Nat.toDigits 10 value ++ rest) = .found (.natural value) rest := by
  have fraction : scanFraction rest = .found none rest := by
    unfold scanFraction
    split
    · exact absurd rfl (ends '.' rfl).2.1
    · rfl
  have exponent : scanExponent rest = .found none rest := by
    cases rest with
    | nil => rfl
    | cons c rest =>
        obtain ⟨_, _, lower, upper⟩ := ends c rfl
        simp only [scanExponent, beq_false_of_ne lower, beq_false_of_ne upper, Bool.or_self,
          Bool.false_eq_true, if_false]
  have numeral : Written.numeral ⟨false, Nat.toDigits 10 value, none, none⟩ = .natural value := by
    simp only [Written.numeral, digitsValue_toDigits, if_pos bounded, Bool.false_eq_true, if_false]
  unfold scanNumber
  rw [scanWhole_toDigits ends]
  simp only [fraction, exponent, numeral]

/-! ### Strings -/

def spellText (text : String) : List Char :=
  '"' :: (text.toList.flatMap Json.escapeChar ++ ['"'])

theorem toList_quote (text : String) : (Json.quote text).toList = spellText text := by
  rw [Json.quote, String.toList_ofList]
  rfl

private theorem scanText_control {c : Char} (control : c.toNat < 0x20) (done rest : List Char) :
    scanText done none none (['\\', 'u'] ++ Json.controlDigits c ++ rest) =
      scanText (c :: done) none none rest := by
  have quads : ∀ code < 0x20,
      Json.controlDigits (Char.ofNat code) =
          ['0', '0', Nat.digitChar (code / 16), Nat.digitChar (code % 16)] ∧
        hexQuad? '0' '0' (Nat.digitChar (code / 16)) (Nat.digitChar (code % 16)) = some code ∧
          isTrailing code = false ∧ isLeading code = false := by
    decide
  obtain ⟨digits, code, notTrailing, notLeading⟩ := quads c.toNat control
  rw [Char.ofNat_toNat] at digits
  rw [digits]
  simp only [List.cons_append, List.nil_append]
  rw [scanText]
  simp only [code, notTrailing, notLeading, Bool.false_eq_true, if_false, Char.ofNat_toNat]
  rfl

private theorem scanText_plain {c : Char} (notQuote : c ≠ '"') (notBackslash : c ≠ '\\')
    (visible : ¬c.toNat < 0x20) (done rest : List Char) :
    scanText done none none (c :: rest) = scanText (c :: done) none none rest := by
  rw [scanText.eq_def]
  split
  case h_7 c rest _ _ _ _ same =>
    cases same
    rw [if_neg visible]
    rfl
  all_goals simp_all

private theorem scanText_escapeChar (c : Char) (done rest : List Char) :
    scanText done none none (Json.escapeChar c ++ rest) = scanText (c :: done) none none rest := by
  by_cases short : c ∈ ['"', '\\', '\x08', '\x0c', '\n', '\r', '\t']
  · simp only [List.mem_cons, List.not_mem_nil, or_false] at short
    rcases short with rfl | rfl | rfl | rfl | rfl | rfl | rfl
    all_goals rfl
  · simp only [List.mem_cons, List.not_mem_nil, or_false, not_or] at short
    obtain ⟨notQuote, notBackslash, others⟩ := short
    by_cases control : c.toNat < 0x20
    · have escaped : Json.escapeChar c = ['\\', 'u'] ++ Json.controlDigits c := by
        simp only [Json.escapeChar, notQuote, notBackslash, others, control, if_true, if_false]
      rw [escaped]
      exact scanText_control control done rest
    · have itself : Json.escapeChar c = [c] := by
        simp only [Json.escapeChar, notQuote, notBackslash, others, control, if_false]
      rw [itself]
      exact scanText_plain notQuote notBackslash control done rest

private theorem scanText_flatMap (chars done rest : List Char) :
    scanText done none none (chars.flatMap Json.escapeChar ++ '"' :: rest) =
      .found ⟨String.ofList (done.reverse ++ chars), none⟩ rest := by
  induction chars generalizing done with
  | nil =>
      rw [List.append_nil]
      rfl
  | cons c chars ih =>
      rw [List.flatMap_cons, List.append_assoc, scanText_escapeChar, ih, List.reverse_cons,
        List.append_assoc]
      rfl

/-- A written string is read up to its closing quote. -/
theorem scanText_spellText (text : String) (rest : List Char) :
    scanText [] none none (text.toList.flatMap Json.escapeChar ++ '"' :: rest) =
      .found ⟨text, none⟩ rest := by
  rw [scanText_flatMap, List.reverse_nil, List.nil_append, String.ofList_toList]

/-! ### Values -/

/-- Where blanks stand in the text of a value: at the start of a line of some level, and after a
colon. -/
structure Spacing where
  line : Nat → List Char
  colon : List Char
  line_blank : ∀ level, ∀ c ∈ line level, isBlank c = true
  colon_blank : ∀ c ∈ colon, isBlank c = true

namespace Spacing

def compact : Spacing where
  line := fun _ => []
  colon := []
  line_blank := by
    intro level c member
    cases member
  colon_blank := by
    intro c member
    cases member

def indented : Spacing where
  line := fun level => '\n' :: List.replicate (2 * level) ' '
  colon := [' ']
  line_blank := by
    intro level c member
    rcases List.mem_cons.mp member with rfl | blank
    · rfl
    · rw [List.eq_of_mem_replicate blank]
      rfl
  colon_blank := by
    intro c member
    rw [List.mem_singleton.mp member]
    rfl

variable (spacing : Spacing)

mutual

/-- The text of a value that stands at some level. -/
def spell (level : Nat) : Json → List Char
  | .null => ['n', 'u', 'l', 'l']
  | .bool true => ['t', 'r', 'u', 'e']
  | .bool false => ['f', 'a', 'l', 's', 'e']
  | .number value => Nat.toDigits 10 value
  | .text value => spellText value
  | .list [] => ['[', ']']
  | .list (item :: items) =>
      '[' :: (spacing.line (level + 1) ++ (spell (level + 1) item ++
        (spellItems (level + 1) items ++ (spacing.line level ++ [']']))))
  | .object [] => ['\x7b', '\x7d']
  | .object ((key, value) :: entries) =>
      '\x7b' :: (spacing.line (level + 1) ++ (spellText key ++ ':' :: (spacing.colon ++
        (spell (level + 1) value ++
          (spellEntries (level + 1) entries ++ (spacing.line level ++ ['\x7d']))))))

/-- Items that follow others, each after a comma. -/
def spellItems (level : Nat) : List Json → List Char
  | [] => []
  | item :: items =>
      ',' :: (spacing.line level ++ (spell level item ++ spellItems level items))

/-- Entries that follow others, each after a comma. -/
def spellEntries (level : Nat) : List (String × Json) → List Char
  | [] => []
  | (key, value) :: entries =>
      ',' :: (spacing.line level ++ (spellText key ++ ':' :: (spacing.colon ++
        (spell level value ++ spellEntries level entries))))

end

end Spacing

namespace Json

mutual

/-- All numbers in a value are words of 64 bits. -/
def InRange : Json → Prop
  | number value => value < UInt64.size
  | list items => ItemsInRange items
  | object entries => EntriesInRange entries
  | _ => True

def ItemsInRange : List Json → Prop
  | [] => True
  | item :: items => item.InRange ∧ ItemsInRange items

def EntriesInRange : List (String × Json) → Prop
  | [] => True
  | (_, value) :: entries => value.InRange ∧ EntriesInRange entries

end

theorem itemsInRange_iff {items : List Json} :
    ItemsInRange items ↔ ∀ item ∈ items, item.InRange := by
  induction items with
  | nil => simp only [ItemsInRange, List.not_mem_nil, false_implies, implies_true]
  | cons item items ih => rw [ItemsInRange, ih, List.forall_mem_cons]

theorem entriesInRange_iff {entries : List (String × Json)} :
    EntriesInRange entries ↔ ∀ entry ∈ entries, entry.2.InRange := by
  induction entries with
  | nil => simp only [EntriesInRange, List.not_mem_nil, false_implies, implies_true]
  | cons entry entries ih => rw [EntriesInRange, ih, List.forall_mem_cons]

end Json

private theorem scanValue_list {fuel : Nat} {text cs : List Char} {c : Char}
    (first : dropBlanks text = c :: cs) (notClosing : c ≠ ']') :
    scanValue (fuel + 1) ('[' :: text) =
      (.list (scanItems fuel (c :: cs)).1 (scanItems fuel (c :: cs)).2.1,
        (scanItems fuel (c :: cs)).2.2) := by
  rw [scanValue, dropBlanks_cons rfl]
  simp only
  rw [first]
  split
  · rename_i impossible
    cases impossible
  · rename_i same
    cases same
    exact absurd rfl notClosing
  · rfl

private theorem scanValue_object {fuel : Nat} {text cs : List Char}
    (first : dropBlanks text = '"' :: cs) :
    scanValue (fuel + 1) ('\x7b' :: text) =
      (.object (scanEntries fuel ('"' :: cs)).1 (scanEntries fuel ('"' :: cs)).2.1,
        (scanEntries fuel ('"' :: cs)).2.2) := by
  rw [scanValue, dropBlanks_cons rfl]
  simp only
  rw [first]
  rfl

private theorem scanValue_blanks {fuel : Nat} {blanks : List Char}
    (blank : ∀ c ∈ blanks, isBlank c = true) (rest : List Char) :
    scanValue (fuel + 1) (blanks ++ rest) = scanValue (fuel + 1) rest := by
  rw [scanValue, scanValue, dropBlanks_append blank]

private theorem scanItems_last {fuel : Nat} {cs rest after : List Char} {item : Tree}
    (scanned : scanValue fuel cs = (item, some rest)) (closed : dropBlanks rest = ']' :: after) :
    scanItems (fuel + 1) cs = ([item], .closed, some after) := by
  rw [scanItems, scanned]
  simp only
  rw [closed]
  rfl

private theorem scanItems_comma {fuel : Nat} {cs rest more others : List Char} {c : Char}
    {item : Tree}
    (scanned : scanValue fuel cs = (item, some rest)) (comma : dropBlanks rest = ',' :: more)
    (first : dropBlanks more = c :: others) (notClosing : c ≠ ']') :
    scanItems (fuel + 1) cs =
      (item :: (scanItems fuel (c :: others)).1, (scanItems fuel (c :: others)).2) := by
  rw [scanItems, scanned]
  simp only
  rw [comma]
  simp only
  rw [first]
  split
  · rename_i impossible
    cases impossible
  · rename_i same
    cases same
    exact absurd rfl notClosing
  · rfl

private theorem scanEntries_last {fuel : Nat} {cs colon rest after : List Char} {key : Literal}
    {value : Tree} (keyed : scanText [] none none cs = .found key (':' :: colon))
    (scanned : scanValue fuel colon = (value, some rest))
    (closed : dropBlanks rest = '\x7d' :: after) :
    scanEntries (fuel + 1) ('"' :: cs) = ([(key, value)], .closed, some after) := by
  rw [scanEntries, keyed]
  simp only
  rw [dropBlanks_cons rfl]
  simp only
  rw [scanned]
  simp only
  rw [closed]
  rfl

private theorem scanEntries_comma {fuel : Nat} {cs colon rest more others : List Char}
    {key : Literal}
    {value : Tree} (keyed : scanText [] none none cs = .found key (':' :: colon))
    (scanned : scanValue fuel colon = (value, some rest))
    (comma : dropBlanks rest = ',' :: more) (first : dropBlanks more = '"' :: others) :
    scanEntries (fuel + 1) ('"' :: cs) =
      ((key, value) :: (scanEntries fuel ('"' :: others)).1,
        (scanEntries fuel ('"' :: others)).2) := by
  rw [scanEntries, keyed]
  simp only
  rw [dropBlanks_cons rfl]
  simp only
  rw [scanned]
  simp only
  rw [comma]
  simp only
  rw [first]
  rfl

theorem isBlank_of_isDigit {c : Char} (digit : c.isDigit = true) : isBlank c = false := by
  cases blank : isBlank c with
  | false => rfl
  | true =>
      simp only [isBlank, Bool.or_eq_true, beq_iff_eq] at blank
      rcases blank with ((rfl | rfl) | rfl) | rfl
      all_goals cases digit

private theorem scanValue_digit {fuel : Nat} {c : Char} (digit : c.isDigit = true)
    (cs : List Char) :
    scanValue (fuel + 1) (c :: cs) = numberTree (scanNumber false (c :: cs)) := by
  rw [scanValue, dropBlanks_cons (isBlank_of_isDigit digit)]
  split
  all_goals simp_all

theorem cannotContinue_cons {c : Char} {rest : List Char}
    (other : c ∈ [',', ']', '\x7d', '\n', ' ', '\t', '\r']) : CannotContinue (c :: rest) := by
  intro first same
  cases same
  simp only [List.mem_cons, List.not_mem_nil, or_false] at other
  rcases other with rfl | rfl | rfl | rfl | rfl | rfl | rfl
  all_goals decide

theorem cannotContinue_blanks {blanks rest : List Char} (blank : ∀ c ∈ blanks, isBlank c = true)
    (ends : CannotContinue rest) : CannotContinue (blanks ++ rest) := by
  cases blanks with
  | nil => exact ends
  | cons c blanks =>
      have first := blank c List.mem_cons_self
      simp only [isBlank, Bool.or_eq_true, beq_iff_eq] at first
      apply cannotContinue_cons
      rcases first with ((rfl | rfl) | rfl) | rfl
      all_goals decide

namespace Spacing

variable (spacing : Spacing)

/-- The text of a value starts with a character that is neither blank nor closes a list. -/
theorem exists_spell_eq_cons (level : Nat) (json : Json) :
    ∃ c cs, spacing.spell level json = c :: cs ∧ isBlank c = false ∧ c ≠ ']' := by
  cases json with
  | null => exact ⟨_, _, rfl, rfl, by decide⟩
  | bool value =>
      cases value with
      | true => exact ⟨_, _, rfl, rfl, by decide⟩
      | false => exact ⟨_, _, rfl, rfl, by decide⟩
  | number value =>
      rw [spell]
      cases digits : Nat.toDigits 10 value with
      | nil => exact absurd digits Nat.toDigits_ne_nil
      | cons c cs =>
          have digit : c.isDigit = true :=
            Nat.isDigit_of_mem_toDigits (b := 10) (n := value) (by omega) (by omega)
              (digits ▸ List.mem_cons_self)
          refine ⟨c, cs, rfl, isBlank_of_isDigit digit, ?_⟩
          rintro rfl
          cases digit
  | text value => exact ⟨_, _, rfl, rfl, by decide⟩
  | list items =>
      cases items with
      | nil => exact ⟨_, _, rfl, rfl, by decide⟩
      | cons item items => exact ⟨_, _, rfl, rfl, by decide⟩
  | object entries =>
      cases entries with
      | nil => exact ⟨_, _, rfl, rfl, by decide⟩
      | cons entry entries => exact ⟨_, _, rfl, rfl, by decide⟩

private theorem cannotContinue_spellItems (level closing : Nat) (items : List Json)
    (rest : List Char) :
    CannotContinue (spacing.spellItems level items ++ (spacing.line closing ++ ']' :: rest)) := by
  cases items with
  | nil =>
      have closed : CannotContinue (']' :: rest) := cannotContinue_cons (by decide)
      rw [spellItems, List.nil_append]
      exact cannotContinue_blanks (spacing.line_blank closing) closed
  | cons item items => exact cannotContinue_cons (by decide)

private theorem cannotContinue_spellEntries (level closing : Nat) (entries : List (String × Json))
    (rest : List Char) :
    CannotContinue
      (spacing.spellEntries level entries ++ (spacing.line closing ++ '\x7d' :: rest)) := by
  cases entries with
  | nil =>
      have closed : CannotContinue ('\x7d' :: rest) := cannotContinue_cons (by decide)
      rw [spellEntries, List.nil_append]
      exact cannotContinue_blanks (spacing.line_blank closing) closed
  | cons entry entries => exact cannotContinue_cons (by decide)

/-- What is read of a text, whatever follows it that cannot be part of a number. -/
def ReadsAs (text : List Char) (tree : Tree) : Prop :=
  ∀ fuel rest, 2 * text.length ≤ fuel + 1 → CannotContinue rest →
    scanValue (fuel + 1) (text ++ rest) = (tree, some rest)

mutual

theorem spell_readsAs : (json : Json) → json.InRange → ∀ level,
    ReadsAs (spacing.spell level json) (.ofJson json)
  | .null, _, _, _, _, _, _ => rfl
  | .bool true, _, _, _, _, _, _ => rfl
  | .bool false, _, _, _, _, _, _ => rfl
  | .number value, inRange, level, fuel, rest, _, ends => by
      have scanned := scanNumber_toDigits inRange ends
      rw [spell]
      cases digits : Nat.toDigits 10 value with
      | nil => exact absurd digits Nat.toDigits_ne_nil
      | cons c cs =>
          have digit : c.isDigit = true :=
            Nat.isDigit_of_mem_toDigits (b := 10) (n := value) (by omega) (by omega)
              (digits ▸ List.mem_cons_self)
          rw [digits] at scanned
          rw [List.cons_append, scanValue_digit digit, ← List.cons_append, scanned]
          rfl
  | .text value, _, level, fuel, rest, _, _ => by
      rw [spell, spellText, List.cons_append, List.append_assoc, List.singleton_append, scanValue,
        dropBlanks_cons rfl]
      simp only [scanText_spellText]
      rfl
  | .list [], _, _, _, _, _, _ => rfl
  | .list (item :: items), inRange, level, fuel, rest, enough, _ => by
      obtain ⟨c, cs, spelled, visible, notClosing⟩ := spacing.exists_spell_eq_cons (level + 1) item
      rw [spell] at enough ⊢
      simp only [List.length_cons, List.length_append] at enough
      simp only [List.cons_append, List.append_assoc, List.nil_append]
      obtain ⟨fuel, rfl⟩ : ∃ less, fuel = less + 2 := ⟨fuel - 2, by omega⟩
      have scanned := scanItems_spell items inRange.2 (level + 1) level fuel
        (spacing.spell (level + 1) item) rest (.ofJson item)
        (spell_readsAs item inRange.1 (level + 1)) (by omega) (by rw [spelled]; exact List.cons_ne_nil _ _)
      rw [spelled, List.cons_append] at scanned ⊢
      rw [scanValue_list (dropBlanks_visible (spacing.line_blank (level + 1)) visible _) notClosing,
        scanned]
      rfl
  | .object [], _, _, _, _, _, _ => rfl
  | .object ((key, value) :: entries), inRange, level, fuel, rest, enough, _ => by
      rw [spell] at enough ⊢
      simp only [List.length_cons, List.length_append] at enough
      obtain ⟨fuel, rfl⟩ : ∃ less, fuel = less + 2 := ⟨fuel - 2, by omega⟩
      have scanned := scanEntries_spell entries inRange.2 (level + 1) level fuel key
        (spacing.spell (level + 1) value) rest (.ofJson value)
        (spell_readsAs value inRange.1 (level + 1)) (by omega)
      simp only [spellText, List.cons_append, List.append_assoc, List.nil_append] at scanned ⊢
      rw [scanValue_object (dropBlanks_visible (spacing.line_blank (level + 1)) rfl _), scanned]
      rfl

theorem scanItems_spell : (items : List Json) → Json.ItemsInRange items →
    ∀ (level closing fuel : Nat) (first rest : List Char) (item : Tree), ReadsAs first item →
      2 * (first.length + (spacing.spellItems level items).length) ≤ fuel + 1 → first ≠ [] →
      scanItems (fuel + 2)
          (first ++ (spacing.spellItems level items ++ (spacing.line closing ++ ']' :: rest))) =
        (item :: Tree.ofItems items, .closed, some rest)
  | [], _, level, closing, fuel, first, rest, item, scanned, enough, _ => by
      have ends := spacing.cannotContinue_spellItems level closing [] rest
      exact scanItems_last (scanned fuel _ (by omega) ends)
        (dropBlanks_visible (spacing.line_blank closing) rfl _)
  | next :: items, inRange, level, closing, fuel, first, rest, item, scanned, enough, filled => by
      obtain ⟨c, cs, spelled, visible, notClosing⟩ := spacing.exists_spell_eq_cons level next
      have ends := spacing.cannotContinue_spellItems level closing (next :: items) rest
      have read := scanned fuel _ (by omega) ends
      have some : 0 < first.length := List.length_pos_iff.mpr filled
      rw [spellItems] at enough read ⊢
      simp only [List.length_cons, List.length_append] at enough
      simp only [List.cons_append, List.append_assoc] at read ⊢
      obtain ⟨fuel, rfl⟩ : ∃ less, fuel = less + 1 := ⟨fuel - 1, by omega⟩
      have others := scanItems_spell items inRange.2 level closing fuel (spacing.spell level next) rest
        (.ofJson next) (spell_readsAs next inRange.1 level) (by omega)
        (by rw [spelled]; exact List.cons_ne_nil _ _)
      rw [spelled, List.cons_append] at others read ⊢
      rw [scanItems_comma read (dropBlanks_cons rfl _)
        (dropBlanks_visible (spacing.line_blank level) visible _) notClosing, others]
      rfl

theorem scanEntries_spell : (entries : List (String × Json)) → Json.EntriesInRange entries →
    ∀ (level closing fuel : Nat) (key : String) (first rest : List Char) (value : Tree),
      ReadsAs first value →
      2 * (first.length + (spacing.spellEntries level entries).length) ≤ fuel + 1 →
      scanEntries (fuel + 2)
          (spellText key ++ ':' :: (spacing.colon ++ (first ++
            (spacing.spellEntries level entries ++ (spacing.line closing ++ '\x7d' :: rest))))) =
        ((⟨key, none⟩, value) :: Tree.ofEntries entries, .closed, some rest)
  | [], _, level, closing, fuel, key, first, rest, value, scanned, enough => by
      have ends := spacing.cannotContinue_spellEntries level closing [] rest
      have read := (scanValue_blanks spacing.colon_blank _).trans (scanned fuel _ (by omega) ends)
      simp only [spellText, List.cons_append, List.append_assoc, List.nil_append]
      exact scanEntries_last (scanText_spellText key _) read
        (dropBlanks_visible (spacing.line_blank closing) rfl _)
  | (next, nextValue) :: entries, inRange, level, closing, fuel, key, first, rest, value, scanned,
      enough => by
      have ends := spacing.cannotContinue_spellEntries level closing ((next, nextValue) :: entries) rest
      have read := (scanValue_blanks spacing.colon_blank _).trans (scanned fuel _ (by omega) ends)
      rw [spellEntries] at enough read ⊢
      simp only [List.length_cons, List.length_append] at enough
      obtain ⟨fuel, rfl⟩ : ∃ less, fuel = less + 1 := ⟨fuel - 1, by omega⟩
      have others := scanEntries_spell entries inRange.2 level closing fuel next
        (spacing.spell level nextValue) rest (.ofJson nextValue)
        (spell_readsAs nextValue inRange.1 level) (by omega)
      simp only [spellText, List.cons_append, List.append_assoc, List.nil_append] at others read ⊢
      rw [scanEntries_comma (scanText_spellText key _) read (dropBlanks_cons rfl _)
        (dropBlanks_visible (spacing.line_blank level) rfl _), others]
      rfl

end

/-- Of a whole text only the blanks at its end are left over. -/
theorem ofText_of_spell {json : Json} (inRange : json.InRange) {text : String} (level : Nat)
    (blanks : List Char) (blank : ∀ c ∈ blanks, isBlank c = true)
    (spelled : text.toList = spacing.spell level json ++ blanks) :
    Source.ofText text = .ofTree (.ofJson json) := by
  have nothing : CannotContinue [] := by
    intro c member
    cases member
  have ends : CannotContinue blanks := by
    have continued := cannotContinue_blanks blank nothing
    rwa [List.append_nil] at continued
  have enough : 2 * (spacing.spell level json).length ≤ 2 * text.toList.length + 1 + 1 := by
    rw [spelled, List.length_append]
    omega
  have scanned := spacing.spell_readsAs json inRange level _ blanks enough ends
  have left : dropBlanks blanks = [] := by
    have dropped := dropBlanks_append blank []
    rwa [List.append_nil] at dropped
  rw [← spelled] at scanned
  unfold Source.ofText
  simp only [scanned, left]
  rfl

end Spacing

theorem intercalate_cons {α : Type} (separator first : List α) (pieces : List (List α)) :
    separator.intercalate (first :: pieces) =
      first ++ pieces.flatMap (fun piece => separator ++ piece) := by
  induction pieces generalizing first with
  | nil => rw [List.intercalate_singleton, List.flatMap_nil, List.append_nil]
  | cons piece pieces ih =>
      rw [List.intercalate_cons_cons, ih, List.flatMap_cons, List.append_assoc, List.append_assoc]

namespace Json

mutual

theorem toList_compact : (json : Json) → (level : Nat) →
    json.compact.toList = Spacing.compact.spell level json
  | .null, _ => by
      rw [compact, Spacing.spell]
      rfl
  | .bool true, _ => by
      rw [compact, Spacing.spell]
      rfl
  | .bool false, _ => by
      rw [compact, Spacing.spell]
      rfl
  | .number value, _ => Nat.toList_repr
  | .text value, _ => toList_quote value
  | .list [], _ => rfl
  | .list (item :: items), level => by
      rw [compact, compactItems, Spacing.spell, ← toList_compact item (level + 1),
        ← toList_compactItems items (level + 1)]
      simp only [String.toList_append, String.toList_intercalate, List.map_cons, intercalate_cons,
        List.flatMap_map, List.append_assoc]
      rfl
  | .object [], _ => rfl
  | .object ((key, value) :: entries), level => by
      rw [compact, compactEntries, Spacing.spell, ← toList_compact value (level + 1),
        ← toList_compactEntries entries (level + 1), ← toList_quote]
      simp only [String.toList_append, String.toList_intercalate, List.map_cons, intercalate_cons,
        List.flatMap_map, List.append_assoc]
      rfl

theorem toList_compactItems : (items : List Json) → (level : Nat) →
    (compactItems items).flatMap (fun piece => [','] ++ piece.toList) =
      Spacing.compact.spellItems level items
  | [], _ => rfl
  | item :: items, level => by
      rw [compactItems, List.flatMap_cons, toList_compact item level, toList_compactItems items level]
      rfl

theorem toList_compactEntries : (entries : List (String × Json)) → (level : Nat) →
    (compactEntries entries).flatMap (fun piece => [','] ++ piece.toList) =
      Spacing.compact.spellEntries level entries
  | [], _ => rfl
  | (key, value) :: entries, level => by
      rw [compactEntries, List.flatMap_cons, toList_compactEntries entries level,
        Spacing.spellEntries, ← toList_compact value level, ← toList_quote]
      simp only [String.toList_append, List.append_assoc]
      rfl

end

private theorem toList_newline (level : Nat) :
    (newline level).toList = Spacing.indented.line level := by
  have blanks : (String.ofList (List.replicate (2 * level) ' ')).toList =
      List.replicate (2 * level) ' ' := String.toList_ofList
  rw [newline, String.toList_append, blanks]
  rfl

private theorem toList_spread_nil (level : Nat) (opening closing : String) :
    (spread level opening closing []).toList = opening.toList ++ closing.toList := by
  rw [spread, List.isEmpty_nil, if_pos rfl, String.toList_append]

private theorem toList_spread (level : Nat) (opening closing piece : String)
    (pieces : List String) :
    (spread level opening closing (piece :: pieces)).toList =
      opening.toList ++ (Spacing.indented.line (level + 1) ++ (piece.toList ++
        (pieces.flatMap (fun piece => ',' :: (Spacing.indented.line (level + 1) ++ piece.toList)) ++
          (Spacing.indented.line level ++ closing.toList)))) := by
  rw [spread, List.isEmpty_cons, if_neg Bool.false_ne_true]
  simp only [String.toList_append, String.toList_intercalate, List.map_cons, intercalate_cons,
    List.flatMap_map, toList_newline, List.append_assoc]
  rfl

mutual

theorem toList_pretty : (json : Json) → (level : Nat) →
    (json.pretty level).toList = Spacing.indented.spell level json
  | .null, _ => by
      rw [pretty, Spacing.spell]
      rfl
  | .bool true, _ => by
      rw [pretty, Spacing.spell]
      rfl
  | .bool false, _ => by
      rw [pretty, Spacing.spell]
      rfl
  | .number value, _ => Nat.toList_repr
  | .text value, _ => toList_quote value
  | .list [], level => by
      rw [pretty, prettyItems, toList_spread_nil]
      rfl
  | .list (item :: items), level => by
      rw [pretty, prettyItems, toList_spread, Spacing.spell, ← toList_pretty item (level + 1),
        ← toList_prettyItems items (level + 1)]
      rfl
  | .object [], level => by
      rw [pretty, prettyEntries, toList_spread_nil]
      rfl
  | .object ((key, value) :: entries), level => by
      rw [pretty, prettyEntries, toList_spread, Spacing.spell, ← toList_pretty value (level + 1),
        ← toList_prettyEntries entries (level + 1), ← toList_quote]
      simp only [String.toList_append, List.append_assoc]
      rfl

theorem toList_prettyItems : (items : List Json) → (level : Nat) →
    (prettyItems level items).flatMap
        (fun piece => ',' :: (Spacing.indented.line level ++ piece.toList)) =
      Spacing.indented.spellItems level items
  | [], _ => rfl
  | item :: items, level => by
      rw [prettyItems, List.flatMap_cons, toList_pretty item level, toList_prettyItems items level,
        Spacing.spellItems, List.cons_append, List.append_assoc]

theorem toList_prettyEntries : (entries : List (String × Json)) → (level : Nat) →
    (prettyEntries level entries).flatMap
        (fun piece => ',' :: (Spacing.indented.line level ++ piece.toList)) =
      Spacing.indented.spellEntries level entries
  | [], _ => rfl
  | (key, value) :: entries, level => by
      rw [prettyEntries, List.flatMap_cons, toList_prettyEntries entries level,
        Spacing.spellEntries, ← toList_pretty value level, ← toList_quote]
      simp only [String.toList_append, List.append_assoc, List.cons_append]
      rfl

end

/-- The text of a value on a single line gives its tree. -/
theorem ofText_compact {json : Json} (inRange : json.InRange) :
    Source.ofText json.compact = .ofTree (.ofJson json) := by
  refine Spacing.compact.ofText_of_spell inRange 0 [] ?_ ?_
  · intro c member
    cases member
  · rw [toList_compact json 0, List.append_nil]

/-- The text of a value over several lines, with a line break at its end or without, gives its
tree. -/
theorem ofText_pretty {json : Json} (inRange : json.InRange) (level : Nat) :
    Source.ofText (json.pretty level) = .ofTree (.ofJson json) ∧
      Source.ofText (json.pretty level ++ "\n") = .ofTree (.ofJson json) := by
  constructor
  · refine Spacing.indented.ofText_of_spell inRange level [] ?_ ?_
    · intro c member
      cases member
    · rw [toList_pretty json level, List.append_nil]
  · refine Spacing.indented.ofText_of_spell inRange level ['\n'] ?_ ?_
    · intro c member
      rw [List.mem_singleton.mp member]
      rfl
    · rw [String.toList_append, toList_pretty json level]
      rfl

end Json

end ZeroError.Document
