import ZeroError.Files.Discovery
import ZeroError.Proofs.Attempts
import ZeroError.Proofs.FirstOccurrences
import ZeroError.Proofs.Patterns

/-!
Searching a directory for documents. The text of a directory's path is read as a pattern, so a search
goes astray when it holds wildcards, and also when dots at its start are followed by two slashes.
Main statement: apart from these, a search finds exactly the entries below the directory whose names
end in `.json`, at every depth. What lies below a directory is said here without places or patterns.
-/

namespace ZeroError.Files

open Glob (Pattern IsLiteral)

theorem splitSlashes_go_ne_nil (chars : List Char) : splitSlashes.go chars ≠ [] := by
  cases chars with
  | nil => exact List.cons_ne_nil _ _
  | cons c chars =>
      rw [splitSlashes.go]
      split
      · exact List.cons_ne_nil _ _
      · split
        · exact List.cons_ne_nil _ _
        · exact List.cons_ne_nil _ _

theorem splitSlashes_go_cons {c : Char} {chars piece : List Char} {pieces : List (List Char)}
    (different : c ≠ '/') (split : splitSlashes.go chars = piece :: pieces) :
    splitSlashes.go (c :: chars) = (c :: piece) :: pieces := by
  simp only [splitSlashes.go, if_neg different, split]

private theorem splitSlashes_go_append (front back : List Char) :
    splitSlashes.go (front ++ '/' :: back) = splitSlashes.go front ++ splitSlashes.go back := by
  induction front with
  | nil => rfl
  | cons c front ih =>
      by_cases slash : c = '/'
      · subst slash
        simp only [List.cons_append, splitSlashes.go, if_true, ih]
      · obtain ⟨piece, pieces, split⟩ := List.exists_cons_of_ne_nil (splitSlashes_go_ne_nil front)
        rw [List.cons_append, splitSlashes_go_cons slash split]
        rw [split] at ih
        exact splitSlashes_go_cons slash ih

theorem splitSlashes_append (front back : String) :
    splitSlashes (front ++ "/" ++ back) = splitSlashes front ++ splitSlashes back := by
  have chars : (front ++ "/" ++ back).toList = front.toList ++ '/' :: back.toList := by
    simp only [String.toList_append, List.append_assoc]
    rfl
  rw [splitSlashes, chars, splitSlashes_go_append, List.map_append]
  rfl

private theorem splitSlashes_of_noSlash {text : String} (none : '/' ∉ text.toList) :
    splitSlashes text = [text] := by
  have whole (chars : List Char) (none : '/' ∉ chars) : splitSlashes.go chars = [chars] := by
    induction chars with
    | nil => rfl
    | cons c chars ih =>
        have later : '/' ∉ chars := fun member => none (List.mem_cons_of_mem c member)
        have different : c ≠ '/' := fun same => none (same ▸ List.mem_cons_self)
        exact splitSlashes_go_cons different (ih later)
  rw [splitSlashes, whole _ none, List.map_singleton, String.ofList_toList]

private theorem splitSlashes_go_chars {chars piece : List Char}
    (member : piece ∈ splitSlashes.go chars)
    {c : Char} (inside : c ∈ piece) : c ∈ chars ∧ c ≠ '/' := by
  induction chars generalizing piece with
  | nil =>
      rw [splitSlashes.go, List.mem_singleton] at member
      subst member
      cases inside
  | cons d chars ih =>
      obtain ⟨first, others, split⟩ := List.exists_cons_of_ne_nil (splitSlashes_go_ne_nil chars)
      have later {other : List Char} (otherMember : other ∈ splitSlashes.go chars)
          (otherInside : c ∈ other) : c ∈ d :: chars ∧ c ≠ '/' :=
        ⟨List.mem_cons_of_mem d (ih otherMember otherInside).1, (ih otherMember otherInside).2⟩
      by_cases slash : d = '/'
      · subst slash
        rw [splitSlashes.go, if_pos rfl, List.mem_cons] at member
        rcases member with rfl | member
        · cases inside
        · exact later member inside
      · rw [splitSlashes_go_cons slash split, List.mem_cons] at member
        rcases member with rfl | member
        · rcases List.mem_cons.mp inside with rfl | inside
          · exact ⟨List.mem_cons_self, slash⟩
          · exact later (split ▸ List.mem_cons_self) inside
        · exact later (split ▸ List.mem_cons_of_mem first member) inside

/-- The characters of the pieces are those of the text that are not slashes. -/
theorem splitSlashes_chars {text piece : String} (member : piece ∈ splitSlashes text) {c : Char}
    (inside : c ∈ piece.toList) : c ∈ text.toList ∧ c ≠ '/' := by
  obtain ⟨chars, charsMember, rfl⟩ := List.mem_map.mp member
  rw [String.toList_ofList] at inside
  exact splitSlashes_go_chars charsMember inside

/-- Splitting undoes joining. -/
theorem splitSlashes_intercalate {pieces : List String} (nonempty : pieces ≠ [])
    (noSlash : ∀ piece ∈ pieces, '/' ∉ piece.toList) :
    splitSlashes (String.intercalate "/" pieces) = pieces := by
  induction pieces with
  | nil => exact absurd rfl nonempty
  | cons piece pieces ih =>
      have here := noSlash piece List.mem_cons_self
      cases pieces with
      | nil =>
          have alone : String.intercalate "/" [piece] = piece := by
            rw [← String.toList_inj, String.toList_intercalate, List.map_singleton,
              List.intercalate_singleton]
          rw [alone, splitSlashes_of_noSlash here]
      | cons other pieces =>
          have joined : String.intercalate "/" (piece :: other :: pieces) =
              piece ++ "/" ++ String.intercalate "/" (other :: pieces) := by
            rw [← String.toList_inj]
            simp only [String.toList_append, String.toList_intercalate, List.map_cons,
              List.intercalate_cons_cons]
          rw [joined, splitSlashes_append, splitSlashes_of_noSlash here,
            ih (List.cons_ne_nil _ _) (fun p member => noSlash p (List.mem_cons_of_mem piece member))]
          rfl

/-! ### What lies below a directory -/

/-- What lies below an entry, with the names on the way to it. -/
inductive Below : Entry → List String → Entry → Prop
  | child {entry inner : Entry} {name : String} (member : (name, inner) ∈ entry.children) :
      Below entry [name] inner
  | deeper {entry middle inner : Entry} {name : String} {names : List String}
      (member : (name, middle) ∈ entry.children) (below : Below middle names inner) :
      Below entry (name :: names) inner

/-- Whether a text can be the name of a file: it is a single component, and neither of the dots. -/
def isName (text : String) : Bool :=
  Part.ofPiece? text == some (.name text) && !text.toList.contains '/'

private theorem isName_iff {text : String} :
    isName text = true ↔ Part.ofPiece? text = some (.name text) ∧ '/' ∉ text.toList := by
  simp [isName]

theorem isName_ne_dot {text : String} (named : isName text = true) : text ≠ "." := by
  rintro rfl
  exact absurd named (by decide)

private theorem depth_lt_of_mem {entry inner : Entry} {name : String}
    (member : (name, inner) ∈ entry.children) : inner.depth < entry.depth := by
  cases entry with
  | file content => cases member
  | directory children =>
      have listed : (name, inner) ∈ children := (List.mem_filter.mp member).1
      have bounded : inner.depth ≤ depthOfChildren children := by
        clear member
        induction children with
        | nil => cases listed
        | cons first children ih =>
            obtain ⟨other, entry⟩ := first
            rw [depthOfChildren]
            rcases List.mem_cons.mp listed with same | later
            · cases same
              exact Nat.le_max_left _ _
            · exact Nat.le_trans (ih later) (Nat.le_max_right _ _)
      rw [Entry.depth]
      omega

private theorem Below.length_le_depth {entry inner : Entry} {names : List String}
    (below : Below entry names inner) : names.length ≤ entry.depth := by
  induction below with
  | child member =>
      have less := depth_lt_of_mem member
      rw [List.length_singleton]
      omega
  | deeper member _below ih =>
      have less := depth_lt_of_mem member
      rw [List.length_cons]
      omega

theorem Below.ne_nil {entry inner : Entry} {names : List String} (below : Below entry names inner) :
    names ≠ [] := by
  cases below with
  | child member => exact List.cons_ne_nil _ _
  | deeper member below => exact List.cons_ne_nil _ _

/-- The pieces of a path that goes on from others. Dots alone are left out. -/
def goOn (shown : List String) (piece : String) : List String :=
  if shown.all (· == ".") then [piece] else shown ++ [piece]

/-- Pieces without the dots that are left out when a path goes on. -/
def kept (shown : List String) : List String :=
  if shown.all (· == ".") then [] else shown

theorem goOn_eq (shown : List String) (piece : String) : goOn shown piece = kept shown ++ [piece] := by
  unfold goOn kept
  split
  · rfl
  · rfl

private theorem foldl_goOn {shown names : List String} (nonempty : names ≠ [])
    (noDots : ∀ name ∈ names, name ≠ ".") : names.foldl goOn shown = kept shown ++ names := by
  induction names generalizing shown with
  | nil => exact absurd rfl nonempty
  | cons name names ih =>
      have here := noDots name List.mem_cons_self
      have notDots : (kept shown ++ [name]).all (· == ".") = false := by
        simp [here]
      rw [List.foldl_cons, goOn_eq]
      cases names with
      | nil => rfl
      | cons other names =>
          rw [ih (List.cons_ne_nil other names)
            (fun p member => noDots p (List.mem_cons_of_mem name member)), kept, notDots]
          simp

namespace Place

theorem mem_children_iff {place lower : Place} :
    lower ∈ place.children ↔ ∃ name inner, (name, inner) ∈ place.located.entry.children ∧
      lower = ⟨goOn place.pieces name, ⟨inner, place.located.entry :: place.located.above⟩⟩ := by
  rw [children, List.mem_map]
  constructor
  · rintro ⟨⟨name, inner⟩, member, rfl⟩
    exact ⟨name, inner, member, rfl⟩
  · rintro ⟨name, inner, member, rfl⟩
    exact ⟨(name, inner), member, rfl⟩

private theorem below_of_mem_belowWithin {fuel : Nat} {place lower : Place}
    (member : lower ∈ place.belowWithin fuel) :
    ∃ names, Below place.located.entry names lower.located.entry ∧
      lower.pieces = names.foldl goOn place.pieces := by
  induction fuel generalizing place with
  | zero => cases member
  | succ fuel ih =>
      obtain ⟨middle, isChild, inside⟩ := List.mem_flatMap.mp member
      obtain ⟨name, inner, listed, rfl⟩ := mem_children_iff.mp isChild
      rcases List.mem_cons.mp inside with rfl | deeper
      · exact ⟨[name], .child listed, rfl⟩
      · obtain ⟨names, below, shown⟩ := ih deeper
        exact ⟨name :: names, .deeper listed below, shown⟩

private theorem exists_mem_belowWithin {entry inner : Entry} {names : List String}
    (below : Below entry names inner) {fuel : Nat} (enough : names.length ≤ fuel) {place : Place}
    (here : place.located.entry = entry) :
    ∃ lower ∈ place.belowWithin fuel, lower.located.entry = inner ∧
      lower.pieces = names.foldl goOn place.pieces := by
  induction below generalizing fuel place with
  | child member =>
      rw [← here] at member
      obtain ⟨fuel, rfl⟩ := Nat.exists_eq_add_one_of_ne_zero (Nat.ne_of_gt enough)
      exact ⟨_, List.mem_flatMap.mpr
        ⟨_, mem_children_iff.mpr ⟨_, _, member, rfl⟩, List.mem_cons_self⟩, rfl, rfl⟩
  | @deeper entry middle inner name names member _below ih =>
      rw [← here] at member
      obtain ⟨fuel, rfl⟩ := Nat.exists_eq_add_one_of_ne_zero (Nat.ne_zero_of_lt enough)
      let next : Place :=
        ⟨goOn place.pieces name, ⟨middle, place.located.entry :: place.located.above⟩⟩
      have isChild : next ∈ place.children := mem_children_iff.mpr ⟨name, middle, member, rfl⟩
      obtain ⟨lower, inside, sameEntry, shown⟩ :=
        @ih fuel (Nat.le_of_succ_le_succ enough) next rfl
      exact ⟨lower, List.mem_flatMap.mpr ⟨next, isChild, List.mem_cons_of_mem next inside⟩,
        sameEntry, shown⟩

end Place

/-- The pieces of a path that goes through another piece, which may be empty. -/
def goThrough (shown : List String) (piece : String) : List String :=
  if piece.isEmpty then shown else goOn shown piece

/-- Whether no empty piece comes while only dots have been passed. -/
def Passable : (shown pieces : List String) → Prop
  | _, [] => True
  | shown, piece :: pieces =>
      (piece.isEmpty → shown.all (· == ".") = false) ∧ Passable (goThrough shown piece) pieces

def literalPattern (piece : String) : Pattern :=
  ⟨piece.toList.map .char⟩

private theorem Place.follow_literal {place : Place} {piece : String} {located : Located}
    (followed : place.located.follow piece = .ok located)
    (passable : piece.isEmpty → place.pieces.all (· == ".") = false) :
    place.follow (literalPattern piece) = [⟨goThrough place.pieces piece, located⟩] := by
  have literal : (literalPattern piece).literal? = some piece := Glob.literal?_chars piece
  simp only [Place.follow, literal, Place.followLiteral, goThrough]
  cases empty : piece.isEmpty with
  | true =>
      have isStart : place.isStart = false := passable empty
      have stays : place.located.stay = .ok located := by
        rw [Located.follow, empty] at followed
        exact followed
      rw [Located.stay] at stays
      split at stays
      · rename_i isDirectory
        cases stays
        simp [isStart, isDirectory]
      · cases stays
  | false =>
      simp only [followed, Bool.false_eq_true, if_false]
      rfl

private theorem search_literal {pieces : List String} {place : Place} {located : Located}
    (followed : pieces.foldlM Located.follow place.located = .ok located)
    (passable : Passable place.pieces pieces) (patterns : List Pattern) :
    search false (pieces.map literalPattern ++ patterns) [place] =
      search false patterns [⟨pieces.foldl goThrough place.pieces, located⟩] := by
  induction pieces generalizing place with
  | nil =>
      cases followed
      rfl
  | cons piece pieces ih =>
      obtain ⟨next, first, rest⟩ := Attempts.bind_eq_ok_iff.mp followed
      have notRecursive : (literalPattern piece).isRecursive = false :=
        Glob.isRecursive_chars piece.toList
      have later := @ih ⟨goThrough place.pieces piece, next⟩ rest passable.2
      rw [List.map_cons, List.cons_append, search, notRecursive]
      simp only [Bool.false_eq_true, if_false, List.flatMap_singleton]
      rw [Place.follow_literal first passable.1]
      exact later

/-! ### Dots at the start of a path -/

/-- Whether a path starts with dots, each with a slash after it, and then another slash. -/
def hasGapAfterDots : List Char → Bool
  | '.' :: '/' :: '/' :: _ => true
  | '.' :: '/' :: rest => hasGapAfterDots rest
  | _ => false

theorem hasGapAfterDots_iff {chars : List Char} :
    hasGapAfterDots chars = true ↔
      ∃ rest, chars = '.' :: '/' :: rest ∧ (rest.head? = some '/' ∨ hasGapAfterDots rest = true) := by
  constructor
  · intro gap
    unfold hasGapAfterDots at gap
    split at gap
    · rename_i rest
      exact ⟨'/' :: rest, rfl, Or.inl rfl⟩
    · rename_i rest _
      exact ⟨rest, rfl, Or.inr gap⟩
    · cases gap
  · rintro ⟨rest, rfl, slash | gap⟩
    · obtain ⟨more, rfl⟩ := List.head?_eq_some_iff.mp slash
      rfl
    · unfold hasGapAfterDots
      split
      · rfl
      · rename_i same
        cases same
        exact gap
      · rename_i noDots
        exact absurd rfl (noDots rest)

/-- A slash at the end makes no gap unless there is one already. -/
theorem hasGapAfterDots_append {chars : List Char} (noSlash : chars.getLast? ≠ some '/')
    (noGap : ¬hasGapAfterDots chars = true) : ¬hasGapAfterDots (chars ++ ['/']) = true := by
  intro gap
  obtain ⟨rest, whole, later⟩ := hasGapAfterDots_iff.mp gap
  rcases List.append_eq_cons_iff.mp whole with ⟨rfl, same⟩ | ⟨tail, rfl, same⟩
  · cases same
  · rcases List.append_eq_cons_iff.mp same.symm with ⟨rfl, same⟩ | ⟨inner, rfl, rfl⟩
    · cases same
      rcases later with slash | inside
      · cases slash
      · cases inside
    · have nonempty : inner ≠ [] := by
        rintro rfl
        exact noSlash rfl
      have noSlashInner : inner.getLast? ≠ some '/' := by
        rw [List.getLast?_cons_of_ne_nil (List.cons_ne_nil _ _),
          List.getLast?_cons_of_ne_nil nonempty] at noSlash
        exact noSlash
      have noGapInner : ¬hasGapAfterDots inner = true :=
        fun inside => noGap (hasGapAfterDots_iff.mpr ⟨inner, rfl, Or.inr inside⟩)
      rcases later with slash | inside
      · rw [List.head?_append_of_ne_nil inner nonempty] at slash
        exact noGap (hasGapAfterDots_iff.mpr ⟨inner, rfl, Or.inl slash⟩)
      · exact hasGapAfterDots_append noSlashInner noGapInner inside
termination_by chars.length

theorem passable_of_notDots {shown : List String} (notDots : shown.all (· == ".") = false)
    (pieces : List String) : Passable shown pieces := by
  induction pieces generalizing shown with
  | nil => trivial
  | cons piece pieces ih =>
      refine ⟨fun _empty => notDots, ih ?_⟩
      unfold goThrough goOn
      split
      · exact notDots
      · rw [notDots]
        simp only [Bool.false_eq_true, if_false, List.all_append, notDots, Bool.false_and]

/-- The first piece of a text, and what comes after the slash that ends it. -/
theorem splitSlashes_go_eq_cons {chars piece : List Char} {pieces : List (List Char)}
    (split : splitSlashes.go chars = piece :: pieces) :
    (chars = piece ∧ pieces = []) ∨
      ∃ rest, chars = piece ++ '/' :: rest ∧ pieces = splitSlashes.go rest := by
  induction chars generalizing piece with
  | nil =>
      cases split
      exact Or.inl ⟨rfl, rfl⟩
  | cons c chars ih =>
      by_cases slash : c = '/'
      · subst slash
        rw [splitSlashes.go, if_pos rfl] at split
        cases split
        exact Or.inr ⟨chars, rfl, rfl⟩
      · obtain ⟨first, others, inner⟩ := List.exists_cons_of_ne_nil (splitSlashes_go_ne_nil chars)
        rw [splitSlashes_go_cons slash inner] at split
        cases split
        rcases ih inner with ⟨rfl, rfl⟩ | ⟨rest, rfl, rfl⟩
        · exact Or.inl ⟨rfl, rfl⟩
        · exact Or.inr ⟨rest, rfl, rfl⟩

private theorem passable_start {front : List Char} (relative : (front ++ ['/']).head? ≠ some '/')
    (noGap : ¬hasGapAfterDots (front ++ ['/']) = true) :
    Passable ["."] ((splitSlashes.go front).map String.ofList) := by
  obtain ⟨piece, pieces, split⟩ := List.exists_cons_of_ne_nil (splitSlashes_go_ne_nil front)
  have shape := splitSlashes_go_eq_cons split
  have nonempty : piece ≠ [] := by
    intro empty
    subst empty
    rcases shape with ⟨rfl, _⟩ | ⟨rest, rfl, _⟩
    · exact relative rfl
    · exact relative rfl
  have shownEmpty : (String.ofList piece).isEmpty = false := by
    rw [String.isEmpty_eq_false_iff, ne_eq, String.ofList_eq_empty_iff]
    exact nonempty
  rw [split, List.map_cons]
  refine ⟨fun empty => (by rw [shownEmpty] at empty; cases empty), ?_⟩
  have shown : goThrough ["."] (String.ofList piece) = [String.ofList piece] := by
    rw [goThrough, shownEmpty]
    rfl
  rw [shown]
  by_cases dot : piece = ['.']
  · subst dot
    rcases shape with ⟨_, rfl⟩ | ⟨rest, whole, rfl⟩
    · trivial
    · -- The same holds of what comes after the dot and its slash.
      rw [whole] at noGap
      refine passable_start ?_ ?_
      · exact fun slash => noGap (hasGapAfterDots_iff.mpr ⟨rest ++ ['/'], rfl, Or.inl slash⟩)
      · exact fun gap => noGap (hasGapAfterDots_iff.mpr ⟨rest ++ ['/'], rfl, Or.inr gap⟩)
  · refine passable_of_notDots ?_ _
    rw [List.all_cons, List.all_nil, Bool.and_true, beq_eq_false_iff_ne]
    intro same
    apply dot
    have chars := congrArg String.toList same
    rwa [String.toList_ofList] at chars
termination_by front.length
decreasing_by
  rw [whole]
  simp only [List.length_append, List.length_cons]
  omega

/-! ### The search of a directory -/

def documentNames : Pattern :=
  ⟨.anyRun :: ".json".toList.map .char⟩

/-- A directory's path up to a slash at its end. -/
theorem exists_front (path : String) :
    ∃ front, documentPattern path = front ++ "/" ++ "**/*.json" ∧
      (path = front ∧ path.toList.getLast? ≠ some '/' ∨ path = front ++ "/") := by
  unfold documentPattern
  by_cases closed : path.toList.getLast? = some '/'
  · refine ⟨String.ofList path.toList.dropLast, ?_⟩
    have whole : path = String.ofList path.toList.dropLast ++ "/" := by
      rw [← String.toList_inj, String.toList_append, String.toList_ofList]
      exact (List.dropLast_append_getLast? '/' closed).symm
    rw [closed, ← whole]
    exact ⟨by simp, Or.inr rfl⟩
  · refine ⟨path, ?_, Or.inl ⟨rfl, closed⟩⟩
    have other : (path.toList.getLast? == some '/') = false := beq_eq_false_iff_ne.mpr closed
    rw [other]
    rfl

/-- An empty piece at the end changes nothing. -/
def IsTrailing (pieces : List String) : Prop :=
  pieces = [] ∨ pieces = [""]

theorem IsTrailing.foldlM_follow {pieces trailing : List String} (isTrailing : IsTrailing trailing)
    {start located : Located}
    (followed : (pieces ++ trailing).foldlM Located.follow start = .ok located) :
    pieces.foldlM Located.follow start = .ok located := by
  rcases isTrailing with rfl | rfl
  · rwa [List.append_nil] at followed
  · rw [List.foldlM_append] at followed
    obtain ⟨last, first, stays⟩ := Attempts.bind_eq_ok_iff.mp followed
    obtain ⟨next, stay, same⟩ := Attempts.bind_eq_ok_iff.mp stays
    have sameLast : last.stay = .ok next := stay
    rw [Located.stay] at sameLast
    split at sameLast
    · cases sameLast
      cases same
      exact first
    · cases sameLast

theorem IsTrailing.filterMap_ofPiece? {trailing : List String} (isTrailing : IsTrailing trailing)
    (pieces : List String) :
    (pieces ++ trailing).filterMap Part.ofPiece? = pieces.filterMap Part.ofPiece? := by
  rcases isTrailing with rfl | rfl
  · rw [List.append_nil]
  · rw [List.filterMap_append]
    exact List.append_nil _

section

variable {working : Entry} {path first : String} {rest : List String}

private theorem find_absolute (split : splitSlashes path = "" :: rest) {located : Located}
    (leads : find working path = .ok located) :
    rest ≠ [] ∧ ∃ root, findRoot working = .ok root ∧
      rest.foldlM Located.follow root = .ok located := by
  rw [find, split] at leads
  cases rest with
  | nil => cases leads
  | cons piece rest => exact ⟨List.cons_ne_nil piece rest, Attempts.bind_eq_ok_iff.mp leads⟩

private theorem find_relative (split : splitSlashes path = first :: rest) (relative : first ≠ "") :
    find working path = (first :: rest).foldlM Located.follow { entry := working } := by
  rw [find, split]
  split
  · rename_i same
    cases same
    exact absurd rfl relative
  · rename_i same
    cases same
    exact absurd rfl relative
  · rfl

theorem parts_absolute (split : splitSlashes path = "" :: rest) (nonempty : rest ≠ []) :
    parts path = .root :: rest.filterMap Part.ofPiece? := by
  rw [parts, split]
  cases rest with
  | nil => exact absurd rfl nonempty
  | cons piece rest => rfl

theorem parts_relative (split : splitSlashes path = first :: rest) (relative : first ≠ "") :
    parts path = (if first = "." then [Part.here] else []) ++
      (first :: rest).filterMap Part.ofPiece? := by
  rw [parts, split]
  split
  · rename_i same
    cases same
    exact absurd rfl relative
  · rename_i same
    cases same
    exact absurd rfl relative
  · rename_i same
    cases same
    rfl
  · rename_i notDot
    rw [if_neg (fun dot => notDot rest (by rw [dot])), List.nil_append]

end

/-- The components of a path, apart from a dot at its start. -/
def stem (path : String) : List Part :=
  (parts path).filter (· ≠ .here)

theorem filter_here_ofPiece? (pieces : List String) :
    (pieces.filterMap Part.ofPiece?).filter (· ≠ .here) = pieces.filterMap Part.ofPiece? := by
  rw [List.filter_eq_self]
  intro part member
  obtain ⟨piece, _, given⟩ := List.mem_filterMap.mp member
  rw [decide_eq_true_eq]
  rintro rfl
  unfold Part.ofPiece? at given
  split at given
  · cases given
  · split at given
    · cases given
    · cases given

private theorem stem_absolute {path : String} {rest : List String}
    (split : splitSlashes path = "" :: rest)
    (nonempty : rest ≠ []) : stem path = .root :: rest.filterMap Part.ofPiece? := by
  rw [stem, parts_absolute split nonempty, List.filter_cons_of_pos (by decide),
    filter_here_ofPiece?]

private theorem stem_relative {path first : String} {rest : List String}
    (split : splitSlashes path = first :: rest) (relative : first ≠ "") :
    stem path = (first :: rest).filterMap Part.ofPiece? := by
  rw [stem, parts_relative split relative, List.filter_append, filter_here_ofPiece?]
  split
  · rfl
  · rfl

theorem filterMap_kept (shown : List String) :
    (kept shown).filterMap Part.ofPiece? = shown.filterMap Part.ofPiece? := by
  unfold kept
  split
  · rename_i allDots
    symm
    rw [List.filterMap_nil, List.filterMap_eq_nil_iff]
    intro piece member
    rw [eq_of_beq (List.all_eq_true.mp allDots piece member)]
    rfl
  · rfl

theorem filterMap_goThrough (shown pieces : List String) :
    (pieces.foldl goThrough shown).filterMap Part.ofPiece? =
      shown.filterMap Part.ofPiece? ++ pieces.filterMap Part.ofPiece? := by
  induction pieces generalizing shown with
  | nil => rw [List.foldl_nil, List.filterMap_nil, List.append_nil]
  | cons piece pieces ih =>
      have here : (goThrough shown piece).filterMap Part.ofPiece? =
          shown.filterMap Part.ofPiece? ++ [piece].filterMap Part.ofPiece? := by
        unfold goThrough
        split
        · rename_i empty
          rw [String.isEmpty_iff.mp empty]
          exact (List.append_nil _).symm
        · rw [goOn_eq, List.filterMap_append, filterMap_kept]
      rw [List.foldl_cons, ih, here, List.append_assoc, ← List.filterMap_append]
      rfl

private theorem mem_goThrough {shown pieces : List String} {piece : String}
    (member : piece ∈ pieces.foldl goThrough shown) : piece ∈ shown ∨ piece ∈ pieces := by
  induction pieces generalizing shown with
  | nil => exact Or.inl member
  | cons next pieces ih =>
      rcases ih member with earlier | later
      · unfold goThrough goOn at earlier
        split at earlier
        · exact Or.inl earlier
        · split at earlier
          · exact Or.inr (List.mem_cons.mpr (Or.inl (List.mem_singleton.mp earlier)))
          · rcases List.mem_append.mp earlier with known | new
            · exact Or.inl known
            · exact Or.inr (List.mem_cons.mpr (Or.inl (List.mem_singleton.mp new)))
      · exact Or.inr (List.mem_cons_of_mem next later)

/-- Going through a piece leaves the kept pieces as they are or adds the piece to them. -/
theorem kept_goThrough (shown : List String) (piece : String) :
    kept (goThrough shown piece) = kept shown ∨
      kept (goThrough shown piece) = kept shown ++ [piece] ∧ piece ≠ "" ∧
        (kept shown = [] → piece ≠ ".") := by
  unfold goThrough
  split
  · exact Or.inl rfl
  · rename_i nonempty
    rw [goOn_eq]
    cases allDots : (kept shown ++ [piece]).all (· == ".") with
    | true =>
        left
        have keptDots : (kept shown).all (· == ".") = true := by
          rw [List.all_append, Bool.and_eq_true] at allDots
          exact allDots.1
        have nothing : kept shown = [] := by
          unfold kept at keptDots ⊢
          split
          · rfl
          · rename_i notDots
            rw [if_neg notDots] at keptDots
            exact absurd keptDots notDots
        rw [nothing] at allDots ⊢
        rw [kept, if_pos allDots]
    | false =>
        refine Or.inr ⟨by rw [kept, allDots]; rfl, ?_, ?_⟩
        · exact fun empty => nonempty (String.isEmpty_iff.mpr empty)
        · rintro nothing rfl
          rw [nothing] at allDots
          cases allDots

private theorem head?_kept_absolute {shown : List String} (absolute : (kept shown).head? = some "")
    (pieces : List String) : (kept (pieces.foldl goThrough shown)).head? = some "" := by
  induction pieces generalizing shown with
  | nil => exact absolute
  | cons piece pieces ih =>
      refine ih ?_
      rcases kept_goThrough shown piece with same | ⟨added, _⟩
      · rw [same, absolute]
      · rw [added, List.head?_append, absolute]
        rfl

private theorem head?_kept_relative {shown : List String}
    (relative : ∀ first, (kept shown).head? = some first → first ≠ "" ∧ first ≠ ".")
    (pieces : List String) {first : String}
    (starts : (kept (pieces.foldl goThrough shown)).head? = some first) :
    first ≠ "" ∧ first ≠ "." := by
  induction pieces generalizing shown with
  | nil => exact relative first starts
  | cons piece pieces ih =>
      refine ih ?_ starts
      intro other otherStarts
      rcases kept_goThrough shown piece with same | ⟨added, nonempty, notDot⟩
      · rw [same] at otherStarts
        exact relative other otherStarts
      · rw [added, List.head?_append] at otherStarts
        cases known : (kept shown).head? with
        | none =>
            rw [known] at otherStarts
            cases otherStarts
            exact ⟨nonempty, notDot (List.head?_eq_none_iff.mp known)⟩
        | some earlier =>
            rw [known] at otherStarts
            cases otherStarts
            exact relative other known

theorem isName_cases {text : String} (named : isName text = true) :
    text ≠ "" ∧ text ≠ "." ∧ '/' ∉ text.toList ∧ Part.ofPiece? text = some (.name text) := by
  obtain ⟨piece, noSlash⟩ := isName_iff.mp named
  refine ⟨?_, isName_ne_dot named, noSlash, piece⟩
  rintro rfl
  cases piece

theorem filterMap_names {names : List String} (named : ∀ name ∈ names, isName name = true) :
    names.filterMap Part.ofPiece? = names.map .name := by
  induction names with
  | nil => rfl
  | cons name names ih =>
      rw [List.filterMap_cons, (isName_cases (named name List.mem_cons_self)).2.2.2, List.map_cons,
        ih (fun other member => named other (List.mem_cons_of_mem name member))]

/-- The path to something below a directory has the components of the directory's path and then the
names. -/
def LeadsOn (path : String) (shown : List String) : Prop :=
  ∀ names, names ≠ [] → (∀ name ∈ names, isName name = true) →
    parts (String.intercalate "/" (kept shown ++ names)) = stem path ++ names.map .name

theorem splitSlashes_kept {shown names : List String} (nonempty : names ≠ [])
    (noSlash : ∀ piece ∈ shown, '/' ∉ piece.toList) (named : ∀ name ∈ names, isName name = true) :
    splitSlashes (String.intercalate "/" (kept shown ++ names)) = kept shown ++ names := by
  refine splitSlashes_intercalate (List.append_ne_nil_of_right_ne_nil _ nonempty) ?_
  intro piece member
  rcases List.mem_append.mp member with known | name
  · unfold kept at known
    split at known
    · cases known
    · exact noSlash piece known
  · exact (isName_cases (named piece name)).2.2.1

theorem noSlash_goThrough {start : String} {pieces : List String} (plain : '/' ∉ start.toList)
    (noSlash : ∀ piece ∈ pieces, '/' ∉ piece.toList) :
    ∀ piece ∈ pieces.foldl goThrough [start], '/' ∉ piece.toList := by
  intro piece member
  rcases mem_goThrough member with first | later
  · rw [List.mem_singleton.mp first]
    exact plain
  · exact noSlash piece later

private theorem leadsOn_absolute {path : String} {rest pieces : List String}
    (split : splitSlashes path = "" :: rest) (nonempty : rest ≠ [])
    (same : rest.filterMap Part.ofPiece? = pieces.filterMap Part.ofPiece?)
    (noSlash : ∀ piece ∈ pieces, '/' ∉ piece.toList) :
    LeadsOn path (pieces.foldl goThrough [""]) := by
  intro names namesNonempty named
  have starts : (kept (pieces.foldl goThrough [""])).head? = some "" :=
    head?_kept_absolute rfl pieces
  obtain ⟨more, shown⟩ := List.head?_eq_some_iff.mp starts
  have plain : ∀ piece ∈ pieces.foldl goThrough [""], '/' ∉ piece.toList :=
    noSlash_goThrough (by decide) noSlash
  have textSplit := splitSlashes_kept namesNonempty plain named
  have known := filterMap_kept (pieces.foldl goThrough [""])
  rw [shown, filterMap_goThrough] at known
  have moreParts : more.filterMap Part.ofPiece? = pieces.filterMap Part.ofPiece? := known
  rw [shown, List.cons_append] at textSplit ⊢
  rw [parts_absolute textSplit (List.append_ne_nil_of_right_ne_nil _ namesNonempty),
    stem_absolute split nonempty, List.filterMap_append, moreParts, same, filterMap_names named]
  rfl

private theorem leadsOn_relative {path first : String} {rest pieces : List String}
    (split : splitSlashes path = first :: rest) (relative : first ≠ "")
    (same : (first :: rest).filterMap Part.ofPiece? = pieces.filterMap Part.ofPiece?)
    (noSlash : ∀ piece ∈ pieces, '/' ∉ piece.toList) :
    LeadsOn path (pieces.foldl goThrough ["."]) := by
  intro names namesNonempty named
  have plain : ∀ piece ∈ pieces.foldl goThrough ["."], '/' ∉ piece.toList :=
    noSlash_goThrough (by decide) noSlash
  have textSplit := splitSlashes_kept namesNonempty plain named
  obtain ⟨head, tail, shown⟩ := List.exists_cons_of_ne_nil
    (List.append_ne_nil_of_right_ne_nil (kept (pieces.foldl goThrough ["."])) namesNonempty)
  have proper : head ≠ "" ∧ head ≠ "." := by
    rcases List.append_eq_cons_iff.mp shown with ⟨_, onlyNames⟩ | ⟨more, keptHead, _⟩
    · have name := isName_cases (named head (onlyNames ▸ List.mem_cons_self))
      exact ⟨name.1, name.2.1⟩
    · refine head?_kept_relative ?_ pieces (by rw [keptHead]; rfl)
      intro other impossible
      cases impossible
  have known := filterMap_kept (pieces.foldl goThrough ["."])
  rw [filterMap_goThrough] at known
  rw [parts_relative (textSplit.trans shown) proper.1, if_neg proper.2, ← shown,
    List.filterMap_append, known, stem_relative split relative, same, filterMap_names named]
  rfl

/-- A search that starts at a place and goes through some pieces comes to the directory. -/
structure Arrives (working : Entry) (path front : String) (directory : Located) (place : Place)
    (pieces : List String) : Prop where
  start : searchStart working (front ++ "/" ++ "**/*.json") = ([place], pieces ++ ["**", "*.json"])
  followed : pieces.foldlM Located.follow place.located = .ok directory
  passable : Passable place.pieces pieces
  within : ∀ piece ∈ pieces, piece ∈ splitSlashes front
  leadsOn : LeadsOn path (pieces.foldl goThrough place.pieces)

section

variable {working : Entry} {path front : String} {directory : Located} {more trailing : List String}

theorem splitSlashes_documentPattern (front : String) :
    splitSlashes (front ++ "/" ++ "**/*.json") = splitSlashes front ++ ["**", "*.json"] := by
  rw [splitSlashes_append]
  rfl

theorem noSlash_of_within {pieces : List String} (within : ∀ piece ∈ pieces, piece ∈ splitSlashes front) :
    ∀ piece ∈ pieces, '/' ∉ piece.toList :=
  fun piece member slash => (splitSlashes_chars (within piece member) slash).2 rfl

private theorem arrives_absolute (leads : find working path = .ok directory)
    (frontSplit : splitSlashes front = "" :: more)
    (pathSplit : splitSlashes path = splitSlashes front ++ trailing)
    (isTrailing : IsTrailing trailing) :
    ∃ root, Arrives working path front directory ⟨[""], root⟩ more := by
  rw [frontSplit, List.cons_append] at pathSplit
  obtain ⟨nonempty, root, found, followed⟩ := find_absolute pathSplit leads
  have within : ∀ piece ∈ more, piece ∈ splitSlashes front :=
    fun piece member => frontSplit ▸ List.mem_cons_of_mem "" member
  refine ⟨root, ⟨?_, isTrailing.foldlM_follow followed, passable_of_notDots rfl more, within, ?_⟩⟩
  · rw [searchStart, splitSlashes_documentPattern, frontSplit, Place.root, found]
    rfl
  · exact leadsOn_absolute pathSplit nonempty (isTrailing.filterMap_ofPiece? more)
      (noSlash_of_within within)

private theorem arrives_relative {first : String} (leads : find working path = .ok directory)
    (frontSplit : splitSlashes front = first :: more) (relative : first ≠ "")
    (pathSplit : splitSlashes path = splitSlashes front ++ trailing)
    (isTrailing : IsTrailing trailing)
    (noGap : ¬hasGapAfterDots (front.toList ++ ['/']) = true) :
    Arrives working path front directory (Place.start working) (first :: more) := by
  have starts : (front.toList ++ ['/']).head? ≠ some '/' := by
    intro slash
    apply relative
    rw [splitSlashes] at frontSplit
    cases chars : front.toList with
    | nil =>
        rw [chars] at frontSplit
        cases frontSplit
        rfl
    | cons c rest =>
        rw [chars] at frontSplit slash
        have same : c = '/' := Option.some.inj slash
        rw [splitSlashes.go, if_pos same] at frontSplit
        cases frontSplit
        rfl
  have passable := passable_start starts noGap
  rw [← splitSlashes, frontSplit] at passable
  rw [frontSplit, List.cons_append] at pathSplit
  rw [find_relative pathSplit relative, ← List.cons_append] at leads
  have within : ∀ piece ∈ first :: more, piece ∈ splitSlashes front :=
    fun piece member => frontSplit ▸ member
  refine ⟨?_, isTrailing.foldlM_follow leads, passable, within, ?_⟩
  · rw [searchStart, splitSlashes_documentPattern, frontSplit, List.cons_append]
    split
    · rename_i same
      cases same
      exact absurd rfl relative
    · rfl
  · exact leadsOn_relative pathSplit relative (isTrailing.filterMap_ofPiece? (first :: more))
      (noSlash_of_within within)

private theorem exists_arrives (leads : find working path = .ok directory)
    (noGap : ¬hasGapAfterDots path.toList = true)
    (ends : path = front ∧ path.toList.getLast? ≠ some '/' ∨ path = front ++ "/") :
    ∃ place pieces, Arrives working path front directory place pieces := by
  obtain ⟨trailing, pathSplit, isTrailing⟩ : ∃ trailing,
      splitSlashes path = splitSlashes front ++ trailing ∧ IsTrailing trailing := by
    rcases ends with ⟨rfl, _⟩ | rfl
    · exact ⟨[], (List.append_nil _).symm, Or.inl rfl⟩
    · refine ⟨[""], ?_, Or.inr rfl⟩
      rw [← String.append_empty (s := front ++ "/"), splitSlashes_append]
      rfl
  have frontGap : ¬hasGapAfterDots (front.toList ++ ['/']) = true := by
    rcases ends with ⟨rfl, noSlash⟩ | rfl
    · exact hasGapAfterDots_append noSlash noGap
    · rwa [String.toList_append] at noGap
  cases frontSplit : splitSlashes front with
  | nil => exact absurd (List.map_eq_nil_iff.mp frontSplit) (splitSlashes_go_ne_nil _)
  | cons first more =>
      by_cases absolute : first = ""
      · subst absolute
        obtain ⟨root, arrives⟩ := arrives_absolute leads frontSplit pathSplit isTrailing
        exact ⟨_, _, arrives⟩
      · exact ⟨_, _, arrives_relative leads frontSplit absolute pathSplit isTrailing frontGap⟩

end

private theorem mapM_ofText_literal {pieces : List String}
    (literal : ∀ piece ∈ pieces, IsLiteral piece.toList) :
    (pieces ++ ["**", "*.json"]).mapM Pattern.ofText =
      .ok (pieces.map literalPattern ++ [⟨[.anyComponents]⟩, documentNames]) := by
  induction pieces with
  | nil => decide
  | cons piece pieces ih =>
      have here : Pattern.ofText piece = .ok (literalPattern piece) :=
        Glob.ofText_literal (literal piece List.mem_cons_self)
      rw [List.cons_append, Attempts.mapM_cons_of_ok here,
        ih (fun other member => literal other (List.mem_cons_of_mem piece member))]
      rfl

private theorem search_documents (place : Place) :
    search false [⟨[.anyComponents]⟩, documentNames] [place] =
      place.below.filter (fun lower => documentNames.isMatch lower.name) := by
  have recursive : (Pattern.mk [.anyComponents]).isRecursive = true := by decide
  have single : documentNames.isRecursive = false := by decide
  simp only [search, recursive, single, if_true, Bool.false_eq_true, if_false,
    List.flatMap_singleton]

private theorem Arrives.searchDirectory_eq {working : Entry} {path front : String}
    {directory : Located}
    {place : Place} {pieces : List String}
    (arrives : Arrives working path front directory place pieces)
    (pattern : documentPattern path = front ++ "/" ++ "**/*.json")
    (literal : IsLiteral front.toList) :
    searchDirectory working path =
      .ok (sortPaths ((Place.below ⟨pieces.foldl goThrough place.pieces, directory⟩).filter
        (fun lower => documentNames.isMatch lower.name) |>.map Place.path)) := by
  have frontLiteral : IsLiteral (front ++ "/").toList := by
    intro c member
    rw [String.toList_append] at member
    rcases List.mem_append.mp member with known | slash
    · exact literal c known
    · rw [List.mem_singleton.mp slash]
      decide
  have closed : (front ++ "/").toList.getLast? = some '/' := by
    rw [String.toList_append]
    exact List.getLast?_concat
  obtain ⟨whole, valid⟩ := @Glob.exists_ofText_append (front ++ "/") "**/*.json"
    [.anyComponents, .anyRun, .char '.', .char 'j', .char 's', .char 'o', .char 'n']
    frontLiteral closed (fun _position => rfl)
  have patterns := mapM_ofText_literal (fun piece member c inside =>
    literal c (splitSlashes_chars (arrives.within piece member) inside).1)
  simp only [searchDirectory, pattern, valid, arrives.start, patterns, bind, Except.bind]
  rw [search_literal arrives.followed arrives.passable, search_documents]
  rfl

/-- The documents below a place: what lies below it under names of which the last ends in `.json`. -/
theorem Place.mem_documents_iff {place : Place} {text : String} (named : ∀ names inner,
      Below place.located.entry names inner → ∀ name ∈ names, isName name = true) :
    text ∈ (place.below.filter (fun lower => documentNames.isMatch lower.name)).map Place.path ↔
      ∃ names name inner, Below place.located.entry (names ++ [name]) inner ∧
        ".json".toList <:+ name.toList ∧
        text = String.intercalate "/" (kept place.pieces ++ (names ++ [name])) := by
  have shown {names : List String} {inner : Entry}
      (below : Below place.located.entry names inner) :
      names.foldl goOn place.pieces = kept place.pieces ++ names :=
    foldl_goOn below.ne_nil (fun name member => isName_ne_dot (named names inner below name member))
  have nameOf {lower : Place} {names : List String} {name : String}
      (pieces : lower.pieces = kept place.pieces ++ (names ++ [name])) : lower.name = name := by
    rw [Place.name, pieces, ← List.append_assoc, List.getLast?_concat]
    rfl
  rw [List.mem_map]
  constructor
  · rintro ⟨lower, member, rfl⟩
    obtain ⟨inside, isDocument⟩ := List.mem_filter.mp member
    obtain ⟨all, below, pieces⟩ := below_of_mem_belowWithin inside
    rw [shown below] at pieces
    obtain ⟨names, name, rfl⟩ := (List.eq_nil_or_concat' all).resolve_left below.ne_nil
    refine ⟨names, name, _, below, ?_, ?_⟩
    · rw [nameOf pieces] at isDocument
      exact (Glob.isMatch_anyRun_iff name).mp isDocument
    · rw [Place.path, pieces]
  · rintro ⟨names, name, inner, below, ending, rfl⟩
    obtain ⟨lower, inside, _, pieces⟩ :=
      exists_mem_belowWithin below below.length_le_depth rfl
    rw [shown below] at pieces
    refine ⟨lower, List.mem_filter.mpr ⟨inside, ?_⟩, ?_⟩
    · rw [nameOf pieces]
      exact (Glob.isMatch_anyRun_iff name).mpr ending
    · rw [Place.path, pieces]

theorem dropRepeated_eq_keepNew (paths : List String) :
    dropRepeated paths = FirstOccurrences.keepNew parts [] paths := rfl

/-- Of paths with the same components one is kept. -/
theorem exists_mem_dropRepeated {paths : List String} {text : String} (member : text ∈ paths) :
    ∃ other ∈ dropRepeated paths, parts other = parts text := by
  apply List.mem_map.mp
  rw [dropRepeated_eq_keepNew]
  exact FirstOccurrences.mem_keys_keepNew_iff.mpr (Or.inr (List.mem_map_of_mem member))

private theorem exists_mem_discover {working : Entry} {path : String}
    {paths found all : List String}
    (given : path ∈ paths) (documents : documentsAt working path = .ok found)
    (discovered : discover working paths = .ok all) {text : String} (member : text ∈ found) :
    ∃ other ∈ all, parts other = parts text := by
  obtain ⟨lists, each, same⟩ := Attempts.bind_eq_ok_iff.mp discovered
  cases same
  refine exists_mem_dropRepeated (List.mem_flatten.mpr ⟨found, ?_, member⟩)
  exact Attempts.mem_of_mapM_eq_ok each given documents

private theorem literal_of_front {path front : String} (literal : IsLiteral path.toList)
    (ends : path = front ∧ path.toList.getLast? ≠ some '/' ∨ path = front ++ "/") :
    IsLiteral front.toList := by
  rcases ends with ⟨rfl, _⟩ | rfl
  · exact literal
  · intro c member
    refine literal c ?_
    rw [String.toList_append]
    exact List.mem_append_left _ member

/-- A search that arrives at a directory finds what lies below it under names of which the last ends
in `.json`, and shows the way that it went. -/
theorem Arrives.exists_documentsAt {working : Entry} {path front : String} {directory : Located}
    {place : Place} {pieces : List String}
    (arrives : Arrives working path front directory place pieces)
    (pattern : documentPattern path = front ++ "/" ++ "**/*.json")
    (literal : IsLiteral front.toList) (isDirectory : isDirectory working path = true)
    (named : ∀ names inner, Below directory.entry names inner → ∀ name ∈ names, isName name = true) :
    ∃ found, documentsAt working path = .ok found ∧ ∀ text, text ∈ found ↔
      ∃ names name inner, Below directory.entry (names ++ [name]) inner ∧
        ".json".toList <:+ name.toList ∧
        text = String.intercalate "/" (kept (pieces.foldl goThrough place.pieces) ++ (names ++ [name])) := by
  have searched := arrives.searchDirectory_eq pattern literal
  refine ⟨_, by rw [documentsAt, if_pos isDirectory, searched]; rfl, ?_⟩
  intro text
  rw [sortPaths, List.mem_mergeSort]
  exact Place.mem_documents_iff named

/-- A directory whose path has no wildcards, and no gap after dots at its start, is searched as it
should be: what is found are the entries below it, at any depth, whose names end in `.json`, and
nothing else. -/
theorem literal_directory_is_searched {working : Entry} {path : String} {directory : Located}
    (leads : find working path = .ok directory) (isDirectory : directory.entry.isDirectory = true)
    (literal : IsLiteral path.toList) (noGap : hasGapAfterDots path.toList = false)
    (named : ∀ names inner, Below directory.entry names inner → ∀ name ∈ names, isName name = true) :
    ∃ found, documentsAt working path = .ok found ∧
      (∀ text ∈ found, ∃ names name inner, Below directory.entry (names ++ [name]) inner ∧
        ".json".toList <:+ name.toList ∧ parts text = stem path ++ (names ++ [name]).map .name) ∧
      ∀ names name inner, Below directory.entry (names ++ [name]) inner →
        ".json".toList <:+ name.toList →
        (∃ text ∈ found, parts text = stem path ++ (names ++ [name]).map .name) ∧
        ∀ paths all, path ∈ paths → discover working paths = .ok all →
          ∃ text ∈ all, parts text = stem path ++ (names ++ [name]).map .name := by
  obtain ⟨front, pattern, ends⟩ := exists_front path
  obtain ⟨place, pieces, arrives⟩ := exists_arrives leads (Bool.eq_false_iff.mp noGap) ends
  have known : ZeroError.Files.isDirectory working path = true := by
    rw [ZeroError.Files.isDirectory, leads]
    exact isDirectory
  obtain ⟨found, documents, listed⟩ :=
    arrives.exists_documentsAt pattern (literal_of_front literal ends) known named
  have shown {names : List String} {name : String} {inner : Entry}
      (below : Below directory.entry (names ++ [name]) inner) :=
    arrives.leadsOn (names ++ [name]) below.ne_nil (named _ inner below)
  refine ⟨found, documents, ?_, ?_⟩
  · intro text member
    obtain ⟨names, name, inner, below, ending, rfl⟩ := (listed text).mp member
    exact ⟨names, name, inner, below, ending, shown below⟩
  · intro names name inner below ending
    have member := (listed _).mpr ⟨names, name, inner, below, ending, rfl⟩
    refine ⟨⟨_, member, shown below⟩, ?_⟩
    intro paths all given discovered
    obtain ⟨other, present, same⟩ := exists_mem_discover given documents discovered member
    exact ⟨other, present, same.trans (shown below)⟩

/-- A directory with one document, beside a directory whose name its own name matches as a pattern. -/
def bracketedTree : Entry :=
  .directory [
    ("q[1]", .directory [("k.json", .file (some ""))]),
    ("q1", .directory [("x.json", .file (some ""))])]

/-- The plain one of the two directories is searched. -/
theorem literal_directory_is_searched_plain :
    find bracketedTree "./q1/" = .ok ⟨.directory [("x.json", .file (some ""))], [bracketedTree]⟩ ∧
      IsLiteral "./q1/".toList ∧ hasGapAfterDots "./q1/".toList = false ∧
      ∃ found, documentsAt bracketedTree "./q1/" = .ok found ∧
        ∃ text ∈ found, parts text = [.name "q1", .name "x.json"] := by
  have leads : find bracketedTree "./q1/" =
      .ok ⟨.directory [("x.json", .file (some ""))], [bracketedTree]⟩ := rfl
  have noWildcard : "./q1/".toList.any Glob.isWildcard = false := by decide
  have literal : IsLiteral "./q1/".toList :=
    fun c member => Bool.eq_false_iff.mpr (List.any_eq_false.mp noWildcard c member)
  have named : ∀ names inner, Below (.directory [("x.json", .file (some ""))]) names inner →
      ∀ name ∈ names, isName name = true := by
    intro names inner below
    cases below with
    | child member =>
        cases List.mem_singleton.mp member
        decide
    | deeper member below =>
        cases List.mem_singleton.mp member
        cases below with
        | child impossible => cases impossible
        | deeper impossible _ => cases impossible
  obtain ⟨found, documents, _, complete⟩ :=
    literal_directory_is_searched leads rfl literal (by decide) named
  obtain ⟨⟨text, member, shown⟩, _⟩ := complete [] "x.json" (.file (some "")) (.child List.mem_cons_self)
    (by decide)
  exact ⟨leads, literal, by decide, found, documents, text, member, shown⟩

/-- The document below the other one is not found, while one that is not below it is. -/
theorem bracketed_directory_is_missed :
    find bracketedTree "q[1]" = .ok ⟨.directory [("k.json", .file (some ""))], [bracketedTree]⟩ ∧
      Below (.directory [("k.json", .file (some ""))]) ["k.json"] (.file (some "")) ∧
      discover bracketedTree ["q[1]"] = .ok ["q1/x.json"] := by
  refine ⟨rfl, .child List.mem_cons_self, ?_⟩
  decide +kernel

end ZeroError.Files
