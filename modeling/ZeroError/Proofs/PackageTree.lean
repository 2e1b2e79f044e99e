import Mathlib.Data.String.Basic
import ZeroError.Proofs.CheckOutcome
import ZeroError.Proofs.Spelling

/-!
Reports by package. The tree that is printed holds the packages with diagnostics in order, and under
each what all reports on it say, in their order. Main statement: both renderings carry the same
diagnostics; going through the tree is the stable sort by package of going through the reports.
-/

namespace ZeroError

open Analysis Document

section

variable {α κ : Type} [LinearOrder κ]

/-- The items with a key, in their order. -/
def withKey (key : α → κ) (k : κ) (items : List α) : List α :=
  items.filter (fun item => decide (key item = k))

private theorem withKey_cons_of_eq {key : α → κ} {k : κ} {item : α} (same : key item = k)
    (items : List α) :
    withKey key k (item :: items) = item :: withKey key k items :=
  List.filter_cons_of_pos (decide_eq_true same)

private theorem withKey_cons_of_ne {key : α → κ} {k : κ} {item : α} (other : key item ≠ k)
    (items : List α) :
    withKey key k (item :: items) = withKey key k items :=
  List.filter_cons_of_neg (fun same => other (of_decide_eq_true same))

theorem withKey_append (key : α → κ) (k : κ) (first second : List α) :
    withKey key k (first ++ second) = withKey key k first ++ withKey key k second :=
  List.filter_append first second

theorem withKey_map_mk (k other : κ) (items : List α) :
    withKey Prod.fst k (items.map (Prod.mk other)) =
      if other = k then items.map (Prod.mk k) else [] := by
  by_cases same : other = k
  · subst same
    rw [if_pos rfl]
    apply List.filter_eq_self.mpr
    intro pair member
    obtain ⟨item, _, rfl⟩ := List.mem_map.mp member
    exact decide_eq_true rfl
  · rw [if_neg same]
    apply List.filter_eq_nil_iff.mpr
    intro pair member hit
    obtain ⟨item, _, rfl⟩ := List.mem_map.mp member
    exact same (of_decide_eq_true hit)

theorem mem_withKey_iff {key : α → κ} {k : κ} {item : α} {items : List α} :
    item ∈ withKey key k items ↔ item ∈ items ∧ key item = k := by
  rw [withKey, List.mem_filter, decide_eq_true_eq]

private theorem key_head_le {key : α → κ} {item other : α} {items : List α}
    (ordered : (other :: items).Pairwise (fun left right => key left ≤ key right))
    (member : item ∈ other :: items) : key other ≤ key item := by
  rcases List.mem_cons.mp member with rfl | later
  · exact le_refl _
  · exact List.rel_of_pairwise_cons ordered later

/-- Two lists in the order of their keys are equal if they agree on the items of every key. -/
theorem eq_of_ordered {key : α → κ} {first second : List α}
    (firstOrdered : first.Pairwise (fun left right => key left ≤ key right))
    (secondOrdered : second.Pairwise (fun left right => key left ≤ key right))
    (same : ∀ k, withKey key k first = withKey key k second) : first = second := by
  induction first generalizing second with
  | nil =>
      cases second with
      | nil => rfl
      | cons other second =>
          have impossible := same (key other)
          rw [withKey_cons_of_eq rfl] at impossible
          cases impossible
  | cons item first ih =>
      cases second with
      | nil =>
          have impossible := same (key item)
          rw [withKey_cons_of_eq rfl] at impossible
          cases impossible
      | cons other second =>
          have itemInSecond : item ∈ withKey key (key item) (other :: second) := by
            rw [← same, withKey_cons_of_eq rfl]
            exact List.mem_cons_self
          have otherInFirst : other ∈ withKey key (key other) (item :: first) := by
            rw [same, withKey_cons_of_eq rfl]
            exact List.mem_cons_self
          have sameKey : key other = key item :=
            le_antisymm (key_head_le secondOrdered (mem_withKey_iff.mp itemInSecond).1)
              (key_head_le firstOrdered (mem_withKey_iff.mp otherInFirst).1)
          have heads := same (key item)
          rw [withKey_cons_of_eq rfl, withKey_cons_of_eq sameKey] at heads
          obtain ⟨rfl, _⟩ := List.cons.inj heads
          have tails : ∀ k, withKey key k first = withKey key k second := by
            intro k
            have both := same k
            by_cases hit : key item = k
            · rw [withKey_cons_of_eq hit, withKey_cons_of_eq hit] at both
              exact (List.cons.inj both).2
            · rwa [withKey_cons_of_ne hit, withKey_cons_of_ne hit] at both
          rw [ih firstOrdered.of_cons secondOrdered.of_cons tails]

def sortBy (key : α → κ) (items : List α) : List α :=
  items.mergeSort (fun left right => decide (key left ≤ key right))

private theorem decide_le_trans (key : α → κ) (first second third : α)
    (below : decide (key first ≤ key second) = true)
    (above : decide (key second ≤ key third) = true) : decide (key first ≤ key third) = true :=
  decide_eq_true (le_trans (of_decide_eq_true below) (of_decide_eq_true above))

private theorem decide_le_total (key : α → κ) (first second : α) :
    (decide (key first ≤ key second) || decide (key second ≤ key first)) = true := by
  rw [Bool.or_eq_true, decide_eq_true_eq, decide_eq_true_eq]
  exact le_total _ _

theorem sortBy_ordered (key : α → κ) (items : List α) :
    (sortBy key items).Pairwise (fun left right => key left ≤ key right) :=
  (List.pairwise_mergeSort (decide_le_trans key) (decide_le_total key) items).imp of_decide_eq_true

/-- Sorting keeps the order of items with the same key. -/
theorem withKey_sortBy (key : α → κ) (k : κ) (items : List α) :
    withKey key k (sortBy key items) = withKey key k items := by
  have ordered : (withKey key k items).Pairwise
      (fun left right => decide (key left ≤ key right) = true) := by
    rw [List.pairwise_iff_forall_sublist]
    intro left right pair
    have leftKey := (mem_withKey_iff.mp (pair.subset List.mem_cons_self)).2
    have rightKey := (mem_withKey_iff.mp
      (pair.subset (List.mem_cons_of_mem left List.mem_cons_self))).2
    rw [leftKey, rightKey]
    exact decide_eq_true (le_refl k)
  have kept : (withKey key k items).Sublist (sortBy key items) :=
    List.sublist_mergeSort (decide_le_trans key) (decide_le_total key) ordered List.filter_sublist
  have inside : (withKey key k items).Sublist (withKey key k (sortBy key items)) := by
    have again := kept.filter (fun item => decide (key item = k))
    simpa only [withKey, List.filter_filter, Bool.and_self] using again
  have count : (withKey key k (sortBy key items)).length = (withKey key k items).length :=
    ((List.mergeSort_perm items _).filter _).length_eq
  exact (inside.eq_of_length count.symm).symm

/-- The stable sort is the only list in the order of the keys that has, under every key, the same
items in the same order. -/
theorem eq_sortBy {key : α → κ} {items listing : List α}
    (ordered : listing.Pairwise (fun left right => key left ≤ key right))
    (same : ∀ k, withKey key k listing = withKey key k items) : listing = sortBy key items :=
  eq_of_ordered ordered (sortBy_ordered key items)
    (fun k => (same k).trans (withKey_sortBy key k items).symm)

end

namespace PackageTree

def packages (tree : PackageTree) : List String :=
  tree.map Prod.fst

def diagnosticsOf (tree : PackageTree) (package : String) : List Diagnostic :=
  (tree.lookup package).getD []

def Ordered (tree : PackageTree) : Prop :=
  tree.Pairwise (fun left right => left.1 < right.1)

theorem packages_cons (package : String) (known : List Diagnostic) (rest : PackageTree) :
    packages ((package, known) :: rest) = package :: packages rest := rfl

theorem diagnosticsOf_cons (name package : String) (known : List Diagnostic) (rest : PackageTree) :
    diagnosticsOf ((package, known) :: rest) name =
      if name = package then known else rest.diagnosticsOf name := by
  rw [diagnosticsOf, List.lookup_cons]
  by_cases same : name = package
  · rw [if_pos same, beq_iff_eq.mpr same]
    rfl
  · rw [if_neg same, beq_false_of_ne same]
    rfl

theorem diagnosticsOf_of_notMem {tree : PackageTree} {name : String}
    (absent : name ∉ tree.packages) : tree.diagnosticsOf name = [] := by
  induction tree with
  | nil => rfl
  | cons entry rest ih =>
      obtain ⟨package, known⟩ := entry
      rw [packages_cons, List.mem_cons, not_or] at absent
      rw [diagnosticsOf_cons, if_neg absent.1]
      exact ih absent.2

theorem ordered_nil : Ordered [] :=
  List.Pairwise.nil

theorem ordered_cons_iff {package : String} {known : List Diagnostic} {rest : PackageTree} :
    Ordered ((package, known) :: rest) ↔ (∀ name ∈ rest.packages, package < name) ∧ rest.Ordered := by
  rw [Ordered, List.pairwise_cons, packages, List.forall_mem_map]
  rfl

theorem mem_packages_add {tree : PackageTree} {package other : String}
    {diagnostics : List Diagnostic} :
    other ∈ (tree.add package diagnostics).packages ↔ other = package ∨ other ∈ tree.packages := by
  fun_induction add package diagnostics tree with
  | case1 => rw [packages_cons, List.mem_cons]
  | case2 known rest => rw [packages_cons, packages_cons, List.mem_cons, or_self_left]
  | case3 name known rest different before => rw [packages_cons, List.mem_cons]
  | case4 name known rest different after ih =>
      rw [packages_cons, packages_cons, List.mem_cons, List.mem_cons, ih, or_left_comm]

theorem ordered_add {tree : PackageTree} (ordered : tree.Ordered) (package : String)
    (diagnostics : List Diagnostic) : (tree.add package diagnostics).Ordered := by
  fun_induction add package diagnostics tree with
  | case1 => exact List.pairwise_singleton _ _
  | case2 known rest =>
      exact ordered_cons_iff.mpr (ordered_cons_iff.mp ordered)
  | case3 name known rest different before =>
      refine ordered_cons_iff.mpr ⟨?_, ordered⟩
      intro other member
      rw [packages_cons] at member
      rcases List.mem_cons.mp member with rfl | later
      · exact before
      · exact lt_trans before ((ordered_cons_iff.mp ordered).1 other later)
  | case4 name known rest different after ih =>
      obtain ⟨least, restOrdered⟩ := ordered_cons_iff.mp ordered
      refine ordered_cons_iff.mpr ⟨?_, ih restOrdered⟩
      intro other member
      rcases mem_packages_add.mp member with rfl | earlier
      · exact lt_of_le_of_ne (not_lt.mp after) (Ne.symm different)
      · exact least other earlier

/-- Adding appends to what is known of the package and leaves all others alone. -/
theorem diagnosticsOf_add {tree : PackageTree} (ordered : tree.Ordered) (package name : String)
    (diagnostics : List Diagnostic) :
    (tree.add package diagnostics).diagnosticsOf name =
      tree.diagnosticsOf name ++ if name = package then diagnostics else [] := by
  fun_induction add package diagnostics tree with
  | case1 => exact diagnosticsOf_cons name package diagnostics []
  | case2 known rest =>
      rw [diagnosticsOf_cons, diagnosticsOf_cons]
      split
      · rfl
      · rw [List.append_nil]
  | case3 first known rest different before =>
      rw [diagnosticsOf_cons]
      split
      · rename_i same
        subst same
        have absent : name ∉ packages ((first, known) :: rest) := by
          intro member
          rw [packages_cons] at member
          rcases List.mem_cons.mp member with same | later
          · exact different same
          · exact lt_asymm before ((ordered_cons_iff.mp ordered).1 name later)
        rw [diagnosticsOf_of_notMem absent, List.nil_append]
      · rw [List.append_nil]
  | case4 first known rest different after ih =>
      rw [diagnosticsOf_cons, diagnosticsOf_cons, ih (ordered_cons_iff.mp ordered).2]
      by_cases here : name = first
      · have other : name ≠ package := fun same => different (same.symm.trans here)
        rw [if_pos here, if_pos here, if_neg other, List.append_nil]
      · rw [if_neg here, if_neg here]

/-- A tree is given by its packages in order and what it holds under each. -/
theorem eq_map_packages {tree : PackageTree} (ordered : tree.Ordered) :
    tree = tree.packages.map (fun package => (package, tree.diagnosticsOf package)) := by
  induction tree with
  | nil => rfl
  | cons entry rest ih =>
      obtain ⟨package, known⟩ := entry
      obtain ⟨least, restOrdered⟩ := ordered_cons_iff.mp ordered
      have others : (packages rest).map
            (fun name => (name, diagnosticsOf ((package, known) :: rest) name)) =
          (packages rest).map (fun name => (name, diagnosticsOf rest name)) := by
        apply List.map_congr_left
        intro name member
        rw [diagnosticsOf_cons, if_neg (ne_of_gt (least name member))]
      rw [packages_cons, List.map_cons, others, ← ih restOrdered, diagnosticsOf_cons, if_pos rfl]

def addAll (tree : PackageTree) (reports : List Report) : PackageTree :=
  reports.foldl (fun tree report => tree.add report.package report.diagnostics) tree

private theorem ordered_addAll {tree : PackageTree} (ordered : tree.Ordered)
    (reports : List Report) :
    (tree.addAll reports).Ordered := by
  induction reports generalizing tree with
  | nil => exact ordered
  | cons report reports ih => exact ih (ordered_add ordered report.package report.diagnostics)

private theorem mem_packages_addAll (tree : PackageTree) (reports : List Report)
    {package : String} :
    package ∈ (tree.addAll reports).packages ↔
      package ∈ tree.packages ∨ ∃ report ∈ reports, report.package = package := by
  induction reports generalizing tree with
  | nil =>
      constructor
      · exact Or.inl
      · rintro (known | ⟨_, impossible, _⟩)
        · exact known
        · cases impossible
  | cons report reports ih =>
      refine (ih (tree.add report.package report.diagnostics)).trans ?_
      rw [mem_packages_add, List.exists_mem_cons_iff, eq_comm]
      tauto

private theorem diagnosticsOf_addAll {tree : PackageTree} (ordered : tree.Ordered)
    (reports : List Report)
    (package : String) :
    (tree.addAll reports).diagnosticsOf package =
      tree.diagnosticsOf package ++
        (reports.filter (fun report => report.package = package)).flatMap Report.diagnostics := by
  induction reports generalizing tree with
  | nil => exact (List.append_nil _).symm
  | cons report reports ih =>
      refine (ih (ordered_add ordered report.package report.diagnostics)).trans ?_
      rw [diagnosticsOf_add ordered, List.append_assoc, List.filter_cons]
      by_cases same : report.package = package
      · rw [if_pos same.symm, if_pos (decide_eq_true same), List.flatMap_cons]
      · rw [if_neg (Ne.symm same), if_neg (fun hit => same (of_decide_eq_true hit)), List.nil_append]

theorem ordered_ofReports (reports : List Report) : (ofReports reports).Ordered :=
  ordered_addAll ordered_nil _

private theorem mem_packages_ofReports {reports : List Report} {package : String} :
    package ∈ (ofReports reports).packages ↔
      ∃ report ∈ reports, report.package = package ∧ report.diagnostics ≠ [] := by
  refine (mem_packages_addAll [] _).trans ?_
  constructor
  · rintro (impossible | ⟨report, member, named⟩)
    · cases impossible
    · obtain ⟨listed, has⟩ := List.mem_filter.mp member
      exact ⟨report, listed, named, hasDiagnostics_iff.mp has⟩
  · rintro ⟨report, listed, named, filled⟩
    exact Or.inr ⟨report, List.mem_filter.mpr ⟨listed, hasDiagnostics_iff.mpr filled⟩, named⟩

private theorem diagnosticsOf_ofReports (reports : List Report) (package : String) :
    (ofReports reports).diagnosticsOf package =
      (reports.filter (fun report => report.package = package)).flatMap Report.diagnostics := by
  refine (diagnosticsOf_addAll ordered_nil _ package).trans ?_
  rw [List.filter_comm]
  generalize reports.filter (fun report => report.package = package) = chosen
  induction chosen with
  | nil => rfl
  | cons report chosen ih =>
      rw [List.filter_cons, List.flatMap_cons]
      split
      · rw [List.flatMap_cons]
        exact congrArg (report.diagnostics ++ ·) ih
      · rename_i clean
        have empty : report.diagnostics = [] :=
          Decidable.not_not.mp (fun filled => clean (hasDiagnostics_iff.mpr filled))
        rw [empty]
        exact ih

end PackageTree

/-- The place and the message of a diagnostic, as both renderings show them. -/
def Analysis.Diagnostic.place (diagnostic : Diagnostic) : String × String :=
  (diagnostic.posn, diagnostic.message)

/-- What the reports on a package say, in their order. -/
def placesIn (package : String) (reports : List Report) : List (String × String) :=
  (reports.filter (fun report => report.package = package)).flatMap
    (fun report => report.diagnostics.map Diagnostic.place)

/-- What all reports say, in their order, each place with the package of its report. -/
def places (reports : List Report) : List (String × String × String) :=
  reports.flatMap (fun report =>
    (report.diagnostics.map Diagnostic.place).map (Prod.mk report.package))

/-- A tree with the given packages that holds one analyzer under each, and under it the places. -/
def treeJson (packages : List String) (placesOf : String → List (String × String)) : Json :=
  .object (packages.map (fun package =>
    (package, .object [(analyzerName, .list ((placesOf package).map (fun place =>
      .object [("posn", .text place.1), ("message", .text place.2)])))])))

/-- The places of a tree with the given packages, package by package. -/
def listing (packages : List String) (placesOf : String → List (String × String)) :
    List (String × String × String) :=
  packages.flatMap (fun package => (placesOf package).map (Prod.mk package))

def placeLine (place : String × String × String) : String :=
  place.2.1 ++ ": " ++ place.2.2 ++ "\n"

theorem placesIn_eq (package : String) (reports : List Report) :
    placesIn package reports =
      ((PackageTree.ofReports reports).diagnosticsOf package).map Diagnostic.place := by
  rw [PackageTree.diagnosticsOf_ofReports, List.map_flatMap]
  rfl

private theorem toJson_ofReports (reports : List Report) :
    (PackageTree.ofReports reports).toJson =
      treeJson (PackageTree.ofReports reports).packages (placesIn · reports) := by
  have listed := PackageTree.eq_map_packages (PackageTree.ordered_ofReports reports)
  unfold PackageTree.toJson treeJson
  rw [congrArg (List.map _) listed, List.map_map]
  congr 1
  apply List.map_congr_left
  intro package _member
  simp only [Function.comp_apply, placesIn_eq, List.map_map, Json.ofList]
  rfl

private theorem inRange_treeJson (packages : List String)
    (placesOf : String → List (String × String)) :
    (treeJson packages placesOf).InRange := by
  refine Json.entriesInRange_iff.mpr ?_
  intro entry member
  obtain ⟨package, _, rfl⟩ := List.mem_map.mp member
  refine ⟨Json.itemsInRange_iff.mpr ?_, trivial⟩
  intro item found
  obtain ⟨place, _, rfl⟩ := List.mem_map.mp found
  exact ⟨trivial, trivial, trivial⟩

private theorem placesIn_cons (package : String) (report : Report) (reports : List Report) :
    placesIn package (report :: reports) =
      (if report.package = package then report.diagnostics.map Diagnostic.place else []) ++
        placesIn package reports := by
  unfold placesIn
  rw [List.filter_cons]
  by_cases same : report.package = package
  · rw [if_pos same, if_pos (decide_eq_true same), List.flatMap_cons]
  · rw [if_neg same, if_neg (fun hit => same (of_decide_eq_true hit)), List.nil_append]

private theorem withKey_places (package : String) (reports : List Report) :
    withKey Prod.fst package (places reports) = (placesIn package reports).map (Prod.mk package) := by
  induction reports with
  | nil => rfl
  | cons report reports ih =>
      rw [places, List.flatMap_cons, withKey_append, withKey_map_mk, placesIn_cons, List.map_append]
      refine (congrArg (_ ++ ·) ih).trans ?_
      congr 1
      split
      · rfl
      · rfl

private theorem withKey_listing {packages : List String} (distinct : packages.Nodup)
    (placesOf : String → List (String × String)) (package : String) :
    withKey Prod.fst package (listing packages placesOf) =
      if package ∈ packages then (placesOf package).map (Prod.mk package) else [] := by
  induction packages with
  | nil => rfl
  | cons first packages ih =>
      obtain ⟨absent, restDistinct⟩ := List.nodup_cons.mp distinct
      rw [listing, List.flatMap_cons, withKey_append, withKey_map_mk]
      refine (congrArg (_ ++ ·) (ih restDistinct)).trans ?_
      by_cases same : first = package
      · subst same
        rw [if_pos rfl, if_neg absent, if_pos List.mem_cons_self, List.append_nil]
      · have member : package ∈ first :: packages ↔ package ∈ packages := by
          rw [List.mem_cons, or_iff_right (Ne.symm same)]
        rw [if_neg same, List.nil_append]
        exact if_congr member.symm rfl rfl

private theorem listing_ordered {packages : List String} (increasing : packages.Pairwise (· < ·))
    (placesOf : String → List (String × String)) :
    (listing packages placesOf).Pairwise (fun left right => left.1 ≤ right.1) := by
  apply List.pairwise_flatMap.mpr
  constructor
  · intro package _member
    rw [List.pairwise_map]
    exact List.pairwise_of_forall (fun _ _ => le_refl package)
  · refine increasing.imp ?_
    intro first second less left leftMember right rightMember
    obtain ⟨_, _, rfl⟩ := List.mem_map.mp leftMember
    obtain ⟨_, _, rfl⟩ := List.mem_map.mp rightMember
    exact le_of_lt less

private theorem renderText_eq_places (reports : List Report) :
    renderText false reports = String.join ((places reports).map placeLine) := by
  rw [renderText, allDiagnostics, places, List.map_flatMap, List.map_flatMap]
  simp only [List.map_map]
  rfl

theorem increasing_packages (reports : List Report) :
    (PackageTree.ofReports reports).packages.Pairwise (· < ·) :=
  List.pairwise_map.mpr (PackageTree.ordered_ofReports reports)

private theorem withKey_listing_ofReports (reports : List Report) (package : String) :
    withKey Prod.fst package
        (listing (PackageTree.ofReports reports).packages (placesIn · reports)) =
      withKey Prod.fst package (places reports) := by
  have distinct : (PackageTree.ofReports reports).packages.Nodup :=
    (increasing_packages reports).imp ne_of_lt
  rw [withKey_listing distinct, withKey_places]
  split
  · rfl
  · rename_i absent
    rw [placesIn_eq, PackageTree.diagnosticsOf_of_notMem absent]
    rfl

/-- The tree that is printed has as its keys the packages with diagnostics, in strictly increasing
order; the text can be read back and gives a tree that holds, under each package, the places of all
reports on it in their order. Going through the tree is the stable sort by package of going through
the reports. So its lines are those of the rendering as text, put in another order that keeps the
order within each package. -/
theorem renderJson_sorts_renderText (reports : List Report) :
    ∃ packages : List String,
      packages.Pairwise (· < ·) ∧
      (∀ package, package ∈ packages ↔
        ∃ report ∈ reports, report.package = package ∧ report.diagnostics ≠ []) ∧
      renderJson reports = (treeJson packages (placesIn · reports)).pretty 0 ++ "\n" ∧
      Source.ofText (renderJson reports) =
        .ofTree (.ofJson (treeJson packages (placesIn · reports))) ∧
      listing packages (placesIn · reports) =
        (places reports).mergeSort (fun left right => decide (left.1 ≤ right.1)) ∧
      renderText false reports = String.join ((places reports).map placeLine) ∧
      ((listing packages (placesIn · reports)).map placeLine).Perm
        ((places reports).map placeLine) ∧
      ∀ package,
        (listing packages (placesIn · reports)).filter (fun place => decide (place.1 = package)) =
          (places reports).filter (fun place => decide (place.1 = package)) := by
  have printed : renderJson reports =
      (treeJson (PackageTree.ofReports reports).packages (placesIn · reports)).pretty 0 ++ "\n" := by
    rw [renderJson, toJson_ofReports]
  have sorted : listing (PackageTree.ofReports reports).packages (placesIn · reports) =
      sortBy Prod.fst (places reports) :=
    eq_sortBy (listing_ordered (increasing_packages reports) _) (withKey_listing_ofReports reports)
  refine ⟨(PackageTree.ofReports reports).packages, increasing_packages reports,
    fun package => PackageTree.mem_packages_ofReports, printed, ?_, sorted,
    renderText_eq_places reports, ?_, withKey_listing_ofReports reports⟩
  · rw [printed]
    exact (Json.ofText_pretty (inRange_treeJson _ _) 0).2
  · rw [sorted]
    exact (List.mergeSort_perm _ _).map placeLine

end ZeroError
