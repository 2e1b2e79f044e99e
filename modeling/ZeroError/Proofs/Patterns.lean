import Mathlib.Data.List.Infix
import ZeroError.Glob

/-!
What two kinds of patterns match. A text without wildcards is a pattern for itself and nothing else;
a star before such a text matches whatever ends with it.
-/

namespace ZeroError.Glob

/-- Whether a character has a meaning of its own in a pattern. -/
def isWildcard (c : Char) : Bool :=
  c == '*' || c == '?' || c == '['

/-- No character of the text has a meaning of its own. -/
def IsLiteral (text : List Char) : Prop :=
  ∀ c ∈ text, isWildcard c = false

private theorem takeToken_literal {c : Char} (plain : isWildcard c = false) (position : Nat)
    (before? : Option Char) (rest : List Char) :
    takeToken position before? c rest = .ok (.char c, rest) := by
  simp only [isWildcard, Bool.or_eq_false_iff, beq_eq_false_iff_ne] at plain
  simp only [takeToken, if_neg plain.1.1, if_neg plain.1.2, if_neg plain.2]

private theorem tokensFrom_cons_of_literal {c : Char} (plain : isWildcard c = false)
    (fuel position : Nat)
    (before? : Option Char) (rest : List Char) :
    tokensFrom (fuel + 1) position before? (c :: rest) =
      (tokensFrom fuel (position + 1) (some c) rest).map (.char c :: ·) := by
  have taken : (c :: rest).take (rest.length + 1 - rest.length) = [c] := by
    rw [Nat.add_sub_cancel_left, List.take_succ_cons, List.take_zero]
  simp only [tokensFrom, takeToken_literal plain, bind, Except.bind, taken, List.length_singleton,
    List.getLast?_singleton]
  cases tokensFrom fuel (position + 1) (some c) rest with
  | error fault => rfl
  | ok tokens => rfl

/-- Characters without a meaning of their own stand for themselves, whatever follows them. -/
theorem tokensFrom_literal_append {text rest : List Char} {tokens : List Token} {fuel : Nat}
    (literal : IsLiteral text)
    (read : ∀ position, tokensFrom fuel position text.getLast? rest = .ok tokens)
    (nonempty : text ≠ []) (position : Nat) (before? : Option Char) :
    tokensFrom (text.length + fuel) position before? (text ++ rest) =
      .ok (text.map .char ++ tokens) := by
  induction text generalizing position before? with
  | nil => exact absurd rfl nonempty
  | cons c text ih =>
      have here := literal c List.mem_cons_self
      have later : IsLiteral text := fun other member => literal other (List.mem_cons_of_mem c member)
      rw [List.length_cons, Nat.add_right_comm, List.cons_append, tokensFrom_cons_of_literal here]
      cases text with
      | nil =>
          rw [List.nil_append, List.length_nil, Nat.zero_add]
          exact congrArg (Except.map (.char c :: ·)) (read (position + 1))
      | cons d text =>
          rw [ih later (by simpa using read) (List.cons_ne_nil d text)]
          rfl

theorem ofText_literal {text : String} (literal : IsLiteral text.toList) :
    Pattern.ofText text = .ok ⟨text.toList.map .char⟩ := by
  rw [Pattern.ofText, ← String.length_toList]
  cases chars : text.toList with
  | nil => rfl
  | cons c cs =>
      rw [chars] at literal
      have read : tokensFrom ((c :: cs).length + 0) 0 none ((c :: cs) ++ []) =
          .ok ((c :: cs).map .char ++ []) :=
        tokensFrom_literal_append literal (fun _position => rfl) (List.cons_ne_nil c cs) 0 none
      rw [List.append_nil, Nat.add_zero, List.append_nil] at read
      rw [read]
      rfl

/-- A literal text, a slash, and a pattern that is valid after a slash make a valid pattern. -/
theorem exists_ofText_append {front rest : String} {tokens : List Token}
    (literal : IsLiteral front.toList) (closed : front.toList.getLast? = some '/')
    (read : ∀ position, tokensFrom rest.toList.length position (some '/') rest.toList = .ok tokens) :
    ∃ pattern, Pattern.ofText (front ++ rest) = .ok pattern := by
  have nonempty : front.toList ≠ [] := by
    intro empty
    rw [empty] at closed
    cases closed
  refine ⟨⟨front.toList.map .char ++ tokens⟩, ?_⟩
  rw [Pattern.ofText, ← String.length_toList, String.toList_append, List.length_append,
    tokensFrom_literal_append literal (by rw [closed]; exact read) nonempty]
  rfl

theorem literal?_chars (text : String) :
    (Pattern.mk (text.toList.map .char)).literal? = some text := by
  have each (chars : List Char) : (chars.map Token.char).mapM Token.char? = some chars := by
    induction chars with
    | nil => rfl
    | cons c chars ih =>
        rw [List.map_cons, List.mapM_cons, ih]
        rfl
  rw [Pattern.literal?, each]
  exact congrArg some String.ofList_toList

theorem isRecursive_chars (text : List Char) : (Pattern.mk (text.map .char)).isRecursive = false := by
  rw [Pattern.isRecursive, List.contains_eq_mem, decide_eq_false_iff_not]
  intro member
  obtain ⟨c, _, impossible⟩ := List.mem_map.mp member
  cases impossible

private theorem headD_map_tails {α β : Type} (text : List α) (test : List α → β) (other : β) :
    (text.tails.map test).headD other = test text := by
  cases text with
  | nil => rfl
  | cons c text => rfl

/-- Literal characters match just the end of a text that they are. -/
theorem matchedEnds_chars (text chars : List Char) :
    matchedEnds text (chars.map .char) = text.tails.map (fun ending => ending == chars) := by
  induction chars with
  | nil =>
      induction text with
      | nil => rfl
      | cons c text ih =>
          rw [List.tails_cons, List.map_cons, ← ih]
          rfl
  | cons c chars ih =>
      have first : matchedEnds text (.char c :: chars.map .char) =
          afterOne (· == c) text (text.tails.map (fun ending => ending == chars)) := by
        rw [matchedEnds, ih]
        · rfl
        · intro impossible
          cases impossible
      rw [List.map_cons, first]
      clear first ih
      induction text with
      | nil => rfl
      | cons d text ih =>
          simp only [List.tails_cons, List.map_cons, afterOne, headD_map_tails, ih, List.cons_beq_cons]

private theorem headD_afterRun (row : List Bool) : (afterRun row).headD false = row.any id := by
  induction row with
  | nil => rfl
  | cons here later ih =>
      rw [afterRun, List.any_cons, ← ih]
      rfl

/-- A star before a literal text matches whatever ends with that text. -/
theorem isMatch_anyRun_iff (text : String) {c : Char} {chars : List Char} :
    (Pattern.mk (.anyRun :: (c :: chars).map .char)).isMatch text = true ↔
      (c :: chars) <:+ text.toList := by
  have row : matchedEnds text.toList (.anyRun :: (c :: chars).map .char) =
      afterRun (text.toList.tails.map (fun ending => ending == c :: chars)) := by
    rw [matchedEnds, matchedEnds_chars]
    · rfl
    · intro impossible
      cases impossible
  rw [Pattern.isMatch, row, headD_afterRun, List.any_map, List.any_eq_true]
  constructor
  · intro ⟨ending, member, same⟩
    rw [← eq_of_beq same]
    exact (List.mem_tails ending text.toList).mp member
  · intro suffix
    exact ⟨c :: chars, (List.mem_tails _ _).mpr suffix, beq_self_eq_true _⟩

end ZeroError.Glob
