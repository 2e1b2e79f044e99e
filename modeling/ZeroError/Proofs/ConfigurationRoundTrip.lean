import ZeroError.Proofs.ConfigurationTokens
import ZeroError.Settings.Reading

/-!
Reading settings back from the text that writes them. Main statement: whatever the settings are, the
patterns to exclude included, writing them and reading the text gives the same settings.
-/

namespace ZeroError

open Yaml

namespace Yaml

def entryNodes (entry : String × String) : Node × Node :=
  (.scalar entry.1 .plain none, .scalar entry.2 .plain none)

def itemNode (text : String) : Node :=
  .scalar text (styleOf text) none

def excludeNodes (patterns : List String) : Node × Node :=
  (.scalar "exclude" .plain none, .sequence (patterns.map itemNode))

def settingsNode (settings : Settings) : Node :=
  .mapping ((lineEntries settings).map entryNodes ++ [excludeNodes settings.exclude])

namespace Parsing

section

variable {anchors : List (String × Node)} {handles : List (String × String)} {rest : List Token}

private theorem takeBlockEntries_entry (fuel : Nat) (done : List (Node × Node))
    (entry : String × String) :
    takeBlockEntries (fuel + 4) done ⟨entryTokens entry ++ rest, anchors, handles⟩ =
      takeBlockEntries (fuel + 3) (done ++ [entryNodes entry]) ⟨rest, anchors, handles⟩ :=
  rfl

private theorem takeBlockEntries_entries (entries : List (String × String)) (fuel : Nat)
    (done : List (Node × Node)) :
    takeBlockEntries (fuel + entries.length + 3) done
      ⟨entries.flatMap entryTokens ++ rest, anchors, handles⟩ =
        takeBlockEntries (fuel + 3) (done ++ entries.map entryNodes) ⟨rest, anchors, handles⟩ := by
  induction entries generalizing done with
  | nil =>
      rw [List.map_nil, List.append_nil]
      rfl
  | cons entry entries ih =>
      rw [List.flatMap_cons, List.append_assoc, List.map_cons, List.append_cons done, ← ih]
      exact takeBlockEntries_entry (fuel + entries.length) done entry

private theorem takeIndentlessItems_item (fuel : Nat) (done : List Node) (text : String) :
    takeIndentlessItems (fuel + 3) done ⟨itemTokens text ++ rest, anchors, handles⟩ =
      takeIndentlessItems (fuel + 2) (done ++ [itemNode text]) ⟨rest, anchors, handles⟩ :=
  rfl

/-- The items up to the end of the mapping around them. -/
theorem takeIndentlessItems_items (texts : List String) (fuel : Nat) (done : List Node) :
    takeIndentlessItems (fuel + texts.length + 2) done
      ⟨texts.flatMap itemTokens ++ [Token.blockEnd], anchors, handles⟩ =
        .ok (.sequence (done ++ texts.map itemNode), ⟨[.blockEnd], anchors, handles⟩) := by
  induction texts generalizing done with
  | nil =>
      rw [List.map_nil, List.append_nil]
      rfl
  | cons text texts ih =>
      have step := @takeIndentlessItems_item anchors handles
        (texts.flatMap itemTokens ++ [Token.blockEnd]) (fuel + texts.length) done text
      rw [List.flatMap_cons, List.append_assoc, List.map_cons, List.append_cons done, ← ih]
      exact step

/-- A value that is a sequence without indentation of its own. -/
theorem takeBlockValue_items (text : String) (texts : List String) (fuel : Nat) :
    takeBlockValue (fuel + (text :: texts).length + 5)
      ⟨.value :: ((text :: texts).flatMap itemTokens ++ [Token.blockEnd]), anchors, handles⟩ =
        .ok (.sequence ((text :: texts).map itemNode), ⟨[.blockEnd], anchors, handles⟩) := by
  have items := @takeIndentlessItems_items anchors handles (text :: texts) fuel []
  change takeIndentlessItems (fuel + (text :: texts).length + 2) []
    ⟨(text :: texts).flatMap itemTokens ++ [Token.blockEnd], anchors, handles⟩ >>= _ = _
  rw [items]
  rfl

/-- The last entry and the end of the mapping. -/
theorem takeBlockEntries_exclude (patterns : List String) (fuel : Nat) (done : List (Node × Node)) :
    takeBlockEntries (fuel + patterns.length + 6) done
      ⟨excludeTokens patterns ++ [Token.blockEnd], anchors, handles⟩ =
        .ok (.mapping (done ++ [excludeNodes patterns]), ⟨[], anchors, handles⟩) := by
  cases patterns with
  | nil => rfl
  | cons pattern patterns =>
      have value := @takeBlockValue_items anchors handles pattern patterns fuel
      -- the name takes its steps from the same budget, and the value is what is left to take
      change takeBlockValue (fuel + (pattern :: patterns).length + 5)
        ⟨.value :: ((pattern :: patterns).flatMap itemTokens ++ [Token.blockEnd]), anchors, handles⟩
          >>= _ = _
      rw [value]
      rfl

end

private theorem length_le_itemTokens (texts : List String) :
    texts.length ≤ (texts.flatMap itemTokens).length := by
  induction texts with
  | nil => exact Nat.le_refl 0
  | cons text texts ih =>
      have one : (itemTokens text).length = 2 := rfl
      rw [List.flatMap_cons, List.length_append, List.length_cons]
      omega

/-- The budget suffices for the entries and, below the last of them, for the items. -/
theorem exists_budget (settings : Settings) :
    ∃ fuel, budget { tokens := settingsTokens settings } =
      fuel + settings.exclude.length + 3 + (lineEntries settings).length + 3 + 1 := by
  have entries : (lineEntries settings).length = 5 := rfl
  have items : settings.exclude.length ≤ (excludeTokens settings.exclude).length := by
    rw [excludeTokens, List.length_append]
    cases settings.exclude with
    | nil => exact Nat.zero_le _
    | cons pattern patterns => exact Nat.le_add_left_of_le (length_le_itemTokens (pattern :: patterns))
  have enough : settings.exclude.length + 12 ≤ budget { tokens := settingsTokens settings } := by
    simp only [budget, settingsTokens, List.length_cons, List.length_append]
    omega
  refine ⟨budget { tokens := settingsTokens settings } - (settings.exclude.length + 12), ?_⟩
  rw [entries]
  omega

private theorem takeDocument_mapping {tokens : List Token} {node : Node} {fuel : Nat}
    (enough : budget { tokens := .blockMappingStart :: tokens } = fuel + 1)
    (taken : takeBlockEntries fuel [] { tokens := tokens } = .ok (node, { tokens := [] })) :
    takeDocument { tokens := .blockMappingStart :: tokens } = .ok (some node) := by
  have whole : takeNode (fuel + 1) true false { tokens := .blockMappingStart :: tokens } =
      .ok (node, { tokens := [] }) := by
    change takeBlockEntries fuel [] { tokens := tokens } >>= _ = _
    rw [taken]
    rfl
  change takeNode (budget { tokens := .blockMappingStart :: tokens }) true false _ >>= _ = _
  rw [enough, whole]
  rfl

/-- The tokens of written settings are put together as one mapping. -/
theorem takeDocument_settingsTokens (settings : Settings) :
    takeDocument { tokens := settingsTokens settings } = .ok (some (settingsNode settings)) := by
  obtain ⟨fuel, enough⟩ := exists_budget settings
  apply takeDocument_mapping enough
  rw [takeBlockEntries_entries, takeBlockEntries_exclude]
  rfl

end Parsing

private theorem Node.ofText_of_tokens {text : String} {parts : List Token} {node? : Option Node}
    (split : tokens text = .ok parts) (taken : Parsing.takeDocument { tokens := parts } = .ok node?) :
    Node.ofText text = .ok node? := by
  rw [Node.ofText, split]
  exact taken

theorem Node.ofText_toYaml (settings : Settings) :
    Node.ofText settings.toYaml = .ok (some (settingsNode settings)) :=
  Node.ofText_of_tokens (tokens_toYaml settings) (Parsing.takeDocument_settingsTokens settings)

/-- The entries of written settings by their names. -/
def namedNodes (settings : Settings) : List (String × Node) :=
  (lineEntries settings).map (fun entry => (entry.1, .scalar entry.2 .plain none)) ++
    [("exclude", .sequence (settings.exclude.map itemNode))]

theorem nodup_namedNodes (settings : Settings) : ((namedNodes settings).map Prod.fst).Nodup := by
  change ["verbosity", "color", "format", "jobs", "fail_on_diagnostics", "exclude"].Nodup
  decide

namespace Node

private theorem entriesOfText_toYaml (settings : Settings) :
    entriesOfText settings.toYaml = .ok (namedNodes settings) := by
  rw [entriesOfText, ofText_toYaml]
  rfl

private theorem texts_items (texts : List String) :
    Node.texts (.sequence (texts.map itemNode)) = .ok texts := by
  change (texts.map itemNode).mapM text = .ok texts
  induction texts with
  | nil => rfl
  | cons head texts ih =>
      rw [List.map_cons, List.mapM_cons, ih]
      rfl

private theorem natural_toString (jobs : UInt64) :
    natural (.scalar (toString jobs.toNat) .plain none) = .ok jobs := by
  have read := unsigned?_toDigits jobs.toNat_lt
  rw [← toList_toString] at read
  have bounded : (plainText? "int" (.scalar (toString jobs.toNat) .plain none)).bind
      (fun text => unsigned? UInt64.size text.toList) = some jobs.toNat := read
  rw [natural, bounded]
  exact congrArg Except.ok UInt64.ofNat_toNat

private theorem truth_name (value : Bool) :
    truth (.scalar (if value then "true" else "false") .plain none) = .ok value := by
  cases value <;> decide

private theorem choice_name {α : Type} (choices : List α) (nameOf : α → String) (value : α)
    (found : choices.find? (fun choice => nameOf choice == nameOf value) = some value) :
    choice choices nameOf (.scalar (nameOf value) .plain none) = .ok value := by
  simp only [choice, givenName, bind, Except.bind, found]

end Node

end Yaml

private theorem filter_eq_singleton {entries : List (String × Node)} {name : String} {node : Node}
    (distinct : (entries.map Prod.fst).Nodup) (member : (name, node) ∈ entries) :
    entries.filter (fun entry => entry.1 == name) = [(name, node)] := by
  induction entries with
  | nil => cases member
  | cons entry entries ih =>
      rw [List.map_cons, List.nodup_cons] at distinct
      rcases List.mem_cons.mp member with rfl | later
      · have noOther : entries.filter (fun entry => entry.1 == name) = [] := by
          rw [List.filter_eq_nil_iff]
          intro other otherMember same
          exact distinct.1 (List.mem_map.mpr ⟨other, otherMember, beq_iff_eq.mp same⟩)
        simp only [List.filter_cons, beq_self_eq_true, if_true, noOther]
      · rw [List.filter_cons_of_neg, ih distinct.2 later]
        intro same
        exact distinct.1 (List.mem_map.mpr ⟨_, later, (beq_iff_eq.mp same).symm⟩)

/-- Where no name stands twice, a name gives the value of its entry. -/
theorem setting_of_mem {α : Type} {entries : List (String × Node)} {name : String} {node : Node}
    {read : Node → Except Fault α} {usual : α} (distinct : (entries.map Prod.fst).Nodup)
    (member : (name, node) ∈ entries) : setting entries name read usual = read node := by
  rw [setting, filter_eq_singleton distinct member]

namespace Settings

private theorem setting_line (settings : Settings) {α : Type} {result : α}
    {read : Node → Except Fault α}
    (name : String) {value : String} (member : (name, value) ∈ lineEntries settings)
    (given : read (.scalar value .plain none) = .ok result) (usual : α) :
    setting (namedNodes settings) name read usual = .ok result := by
  rw [setting_of_mem (nodup_namedNodes settings)]
  · exact given
  · exact List.mem_append_left _ (List.mem_map.mpr ⟨(name, value), member, rfl⟩)

private theorem setting_exclude (settings : Settings) (usual : List String) :
    setting (namedNodes settings) "exclude" Node.texts usual = .ok settings.exclude := by
  rw [setting_of_mem (nodup_namedNodes settings)]
  · exact Node.texts_items settings.exclude
  · exact List.mem_append_right _ List.mem_cons_self

private theorem ofEntries_namedNodes (settings : Settings) :
    ofEntries (namedNodes settings) = .ok settings := by
  have verbosity := setting_line settings "verbosity" (by simp [lineEntries])
    (Node.choice_name Verbosity.all Verbosity.name settings.verbosity
      (by cases settings.verbosity <;> rfl))
  have color := setting_line settings "color" (by simp [lineEntries])
    (Node.choice_name ColorChoice.all ColorChoice.name settings.color
      (by cases settings.color <;> rfl))
  have format := setting_line settings "format" (by simp [lineEntries])
    (Node.choice_name OutputFormat.all OutputFormat.name settings.format
      (by cases settings.format <;> rfl))
  have jobs := setting_line settings "jobs" (by simp [lineEntries])
    (Node.natural_toString settings.jobs)
  have failOnDiagnostics := setting_line settings "fail_on_diagnostics" (by simp [lineEntries])
    (Node.truth_name settings.failOnDiagnostics)
  simp only [ofEntries, verbosity, color, format, jobs, failOnDiagnostics, setting_exclude, bind,
    Except.bind]
  rfl

/-- Settings are read back from the text that writes them. -/
theorem ofYaml_toYaml (settings : Settings) : ofYaml settings.toYaml = .ok settings := by
  rw [ofYaml, Node.entriesOfText_toYaml]
  exact ofEntries_namedNodes settings

end Settings

end ZeroError
