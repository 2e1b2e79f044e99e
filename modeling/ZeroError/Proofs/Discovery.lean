import ZeroError.Proofs.CheckOutcome
import ZeroError.Proofs.DirectorySearch

/-!
Discovering documents for several paths. Each path is looked up by itself, and of what is found, in the
order of the paths, a document is kept the first time that it appears. Main statement: what is discovered
for two lists of paths is what is discovered for the first, followed by what is new in the second; no
document is listed twice, so none is checked twice; and discovery fails for the first path that leads
nowhere or makes a pattern that is refused, and names it.
-/

namespace ZeroError.Files

open Analysis (leakingReport leakingText checkDocument_leaking)
open Glob (Pattern)

/-- Dropping repeated documents from two lists and then from the whole is dropping them once. -/
theorem dropRepeated_append (first second : List String) :
    dropRepeated (first ++ second) =
      dropRepeated first ++
        (dropRepeated second).filter (fun path => parts path ∉ (dropRepeated first).map parts) := by
  simp only [dropRepeated_eq_keepNew]
  rw [FirstOccurrences.keepNew_append, FirstOccurrences.keepNew_eq_append]
  congr 1
  apply List.filter_congr
  intro path _member
  exact decide_eq_decide.mpr Iff.rfl

private theorem nodup_parts_dropRepeated (paths : List String) :
    ((dropRepeated paths).map parts).Nodup := by
  have started : (([] : List String).map parts).Nodup := List.nodup_nil
  exact FirstOccurrences.nodup_keys_keepNew started paths

theorem discover_eq_map (working : Entry) (paths : List String) :
    discover working paths =
      (paths.mapM (documentsAt working)).map (fun found => dropRepeated found.flatten) := by
  rw [discover]
  cases paths.mapM (documentsAt working) with
  | error failure => rfl
  | ok found => rfl

theorem discover_append (working : Entry) (first second : List String) :
    discover working (first ++ second) = (do
      let found ← discover working first
      let more ← discover working second
      return found ++ more.filter (fun path => parts path ∉ found.map parts)) := by
  simp only [discover_eq_map, List.mapM_append]
  cases first.mapM (documentsAt working) with
  | error failure => rfl
  | ok found =>
      cases second.mapM (documentsAt working) with
      | error failure => rfl
      | ok more =>
          change Except.ok (dropRepeated (found ++ more).flatten) = Except.ok _
          rw [List.flatten_append, dropRepeated_append]

theorem nodup_parts_discover {working : Entry} {paths found : List String}
    (discovered : discover working paths = .ok found) : (found.map parts).Nodup := by
  rw [discover_eq_map] at discovered
  obtain ⟨lists, _, rfl⟩ := Attempts.map_eq_ok_iff.mp discovered
  exact nodup_parts_dropRepeated lists.flatten

/-- The pattern is refused with a fault: that of the whole text, or if there is none, that of its first
component that has one. -/
inductive Refused (text : String) : Glob.Fault → Prop
  | whole {fault : Glob.Fault} (faulty : Pattern.ofText text = .error fault) : Refused text fault
  | component {pattern : Pattern} {before after : List String} {piece : String}
      {fault : Glob.Fault} (valid : Pattern.ofText text = .ok pattern)
      (split : splitSlashes text = before ++ piece :: after)
      (earlier : ∀ other ∈ before, ∃ pattern, Pattern.ofText other = .ok pattern)
      (faulty : Pattern.ofText piece = .error fault) : Refused text fault

/-- The path leads nowhere, or it leads to a directory and makes a pattern that is refused. -/
inductive Unsearchable (working : Entry) (path : String) : SearchFailure → Prop
  | missing (noDirectory : isDirectory working path = false) (noFile : isFile working path = false) :
      Unsearchable working path (.missing path)
  | badPattern {fault : Glob.Fault} (directory : isDirectory working path = true)
      (refused : Refused (documentPattern path) fault) :
      Unsearchable working path (.badPattern path fault)

/-- An absolute pattern starts with an empty component, which a search leaves out. It has no fault. -/
theorem mapM_searchStart_eq_error_iff {working : Entry} {text : String} {fault : Glob.Fault} :
    (searchStart working text).2.mapM Pattern.ofText = .error fault ↔
      (splitSlashes text).mapM Pattern.ofText = .error fault := by
  unfold searchStart
  split
  · rename_i pieces absolute
    have valid : Pattern.ofText "" = .ok ⟨[]⟩ := rfl
    rw [absolute, Attempts.mapM_cons_of_ok valid, Attempts.map_eq_error_iff]
  · exact Iff.rfl

theorem searchDirectory_eq_error_iff {working : Entry} {path : String} {fault : Glob.Fault} :
    searchDirectory working path = .error fault ↔ Refused (documentPattern path) fault := by
  simp only [searchDirectory, Attempts.bind_eq_error_iff, mapM_searchStart_eq_error_iff]
  rw [Attempts.mapM_eq_error_iff]
  constructor
  · rintro (faulty | ⟨pattern, valid, ⟨before, piece, after, split, earlier, faulty⟩ | impossible⟩)
    · exact .whole faulty
    · exact .component valid split earlier faulty
    · obtain ⟨_, _, impossible⟩ := impossible
      cases impossible
  · intro refused
    cases refused with
    | whole faulty => exact Or.inl faulty
    | component valid split earlier faulty =>
        exact Or.inr ⟨_, valid, Or.inl ⟨_, _, _, split, earlier, faulty⟩⟩

theorem documentsAt_eq_error_iff {working : Entry} {path : String} {failure : SearchFailure} :
    documentsAt working path = .error failure ↔ Unsearchable working path failure := by
  unfold documentsAt
  constructor
  · intro failed
    split at failed
    · rename_i directory
      obtain ⟨fault, searched, rfl⟩ := Attempts.mapError_eq_error_iff.mp failed
      exact .badPattern directory (searchDirectory_eq_error_iff.mp searched)
    · rename_i noDirectory
      split at failed
      · cases failed
      · rename_i noFile
        cases failed
        exact .missing (Bool.eq_false_iff.mpr noDirectory) (Bool.eq_false_iff.mpr noFile)
  · intro unsearchable
    cases unsearchable with
    | missing noDirectory noFile =>
        rw [if_neg (Bool.eq_false_iff.mp noDirectory), if_neg (Bool.eq_false_iff.mp noFile)]
    | badPattern directory refused =>
        rw [if_pos directory, searchDirectory_eq_error_iff.mpr refused]
        rfl

theorem exists_documentsAt_iff {working : Entry} {path : String} :
    (∃ found, documentsAt working path = .ok found) ↔
      ∀ failure, ¬Unsearchable working path failure := by
  simp only [← documentsAt_eq_error_iff]
  cases documentsAt working path with
  | error failure =>
      constructor
      · intro ⟨found, impossible⟩
        cases impossible
      · intro never
        exact absurd rfl (never failure)
  | ok found =>
      constructor
      · intro _ failure impossible
        cases impossible
      · intro _
        exact ⟨found, rfl⟩

/-- Discovery fails exactly for the first path that cannot be searched. -/
theorem discover_eq_error_iff {working : Entry} {paths : List String} {failure : SearchFailure} :
    discover working paths = .error failure ↔
      ∃ before path after, paths = before ++ path :: after ∧
        (∀ other ∈ before, ∀ cause, ¬Unsearchable working other cause) ∧
        Unsearchable working path failure := by
  rw [discover_eq_map, Attempts.map_eq_error_iff, Attempts.mapM_eq_error_iff]
  simp only [exists_documentsAt_iff, documentsAt_eq_error_iff]

/-- What is discovered for two lists of paths is what is discovered for the first, followed by what is
new in the second; the first failure in the order of the paths is the failure of the whole. No document
is listed twice, and each listed document is checked once. Discovery fails exactly if some path leads
nowhere or makes a pattern that is refused, and then for the first such path, which it names. -/
theorem discovery_lists_each_document_once (working : Entry) :
    (∀ first second, discover working (first ++ second) = (do
      let found ← discover working first
      let more ← discover working second
      return found ++ more.filter (fun path => parts path ∉ found.map parts))) ∧
    (∀ paths found, discover working paths = .ok found → (found.map parts).Nodup) ∧
    (∀ (checker : Checker) paths reports, checker.checkAll working paths = .ok reports →
      ∃ found, discover working paths = .ok found ∧ (found.map parts).Nodup ∧
        List.Forall₂ (fun path report => checker.checkDocument working path = .ok report)
          found reports) ∧
    (∀ paths failure, discover working paths = .error failure ↔
      ∃ before path after, paths = before ++ path :: after ∧
        (∀ other ∈ before, ∀ cause, ¬Unsearchable working other cause) ∧
        Unsearchable working path failure) := by
  refine ⟨discover_append working, ?_, ?_, ?_⟩
  · intro paths found discovered
    exact nodup_parts_discover discovered
  · intro checker paths reports checked
    obtain ⟨found, discovered, each⟩ := Checker.checkAll_eq_ok_iff.mp checked
    exact ⟨found, discovered, nodup_parts_discover discovered, each⟩
  · intro paths failure
    exact discover_eq_error_iff

/-- A directory with one document. -/
def overlapping : Entry :=
  .directory [("d", .directory [("a.json", .file (some leakingText))])]

/-- The document is named beside its directory, which is named twice; it is listed and checked once. Of
two paths that lead nowhere the first is named. -/
theorem discovery_lists_each_document_once_overlapping :
    discover overlapping ["d", "d//a.json", "d"] = .ok ["d/a.json"] ∧
      Checker.checkAll ⟨1, []⟩ overlapping ["d", "d//a.json", "d"] = .ok [leakingReport] ∧
      (∃ found, discover overlapping ["d", "d//a.json", "d"] = .ok found ∧
        (found.map parts).Nodup ∧ found.length = 1) ∧
      discover overlapping ["d", "x", "y"] = .error (.missing "x") := by
  obtain ⟨_, _, once, fails⟩ := discovery_lists_each_document_once overlapping
  have discovered : discover overlapping ["d", "d//a.json", "d"] = .ok ["d/a.json"] := by
    decide +kernel
  have checked : Checker.checkAll ⟨1, []⟩ overlapping ["d", "d//a.json", "d"] =
      .ok [leakingReport] :=
    Checker.checkAll_eq_ok_iff.mpr
      ⟨["d/a.json"], discovered, .cons (checkDocument_leaking rfl) .nil⟩
  obtain ⟨found, listed, distinct, each⟩ := once ⟨1, []⟩ _ _ checked
  refine ⟨discovered, checked, ⟨found, listed, distinct, each.length_eq⟩, ?_⟩
  apply (fails ["d", "x", "y"] (.missing "x")).mpr
  refine ⟨["d"], "x", ["y"], rfl, ?_, .missing rfl rfl⟩
  intro other member
  rw [List.mem_singleton.mp member]
  exact exists_documentsAt_iff.mp ⟨["d/a.json"], by decide +kernel⟩

end ZeroError.Files
