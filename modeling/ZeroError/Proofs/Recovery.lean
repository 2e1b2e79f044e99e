import ZeroError.Proofs.Records
import ZeroError.Proofs.Spelling

/-!
Getting values back from documents that were written for them. A reader recovers a value from a
written document if it reads that value from it, in either mode, as long as the document nests no
deeper than the reader goes. Readers made from others recover what those recover: options, lists,
records field by field, and choices variant by variant.

The main statements are `Fields.Recover.layout` for records, `Reader.tagged_recovers` for choices,
and `Reader.Recovers.read_text`, which passes to the text of a document.
-/

namespace ZeroError.Document

open ZeroError.Attempts

namespace Json

mutual

/-- How many lists and objects enclose one another. -/
def nesting : Json → Nat
  | list items => nestingItems items + 1
  | object entries => nestingEntries entries + 1
  | _ => 0

def nestingItems : List Json → Nat
  | [] => 0
  | item :: items => max item.nesting (nestingItems items)

def nestingEntries : List (String × Json) → Nat
  | [] => 0
  | (_, value) :: entries => max value.nesting (nestingEntries entries)

end

theorem nesting_list_le_iff {items : List Json} {depth : Nat} :
    (list items).nesting ≤ depth + 1 ↔ ∀ item ∈ items, item.nesting ≤ depth := by
  rw [nesting, Nat.add_le_add_iff_right]
  induction items with
  | nil => exact ⟨fun _ item member => absurd member List.not_mem_nil, fun _ => Nat.zero_le depth⟩
  | cons item items ih => rw [nestingItems, Nat.max_le, ih, List.forall_mem_cons]

theorem nesting_object_le_iff {entries : List (String × Json)} {depth : Nat} :
    (object entries).nesting ≤ depth + 1 ↔ ∀ entry ∈ entries, entry.2.nesting ≤ depth := by
  rw [nesting, Nat.add_le_add_iff_right]
  induction entries with
  | nil => exact ⟨fun _ entry member => absurd member List.not_mem_nil, fun _ => Nat.zero_le depth⟩
  | cons entry entries ih => rw [nestingEntries, Nat.max_le, ih, List.forall_mem_cons]

end Json

namespace Tree

theorem ofItems_eq_map (items : List Json) : ofItems items = items.map ofJson := by
  induction items with
  | nil => rfl
  | cons item items ih => rw [ofItems, ih, List.map_cons]

theorem ofEntries_eq_map (entries : List (String × Json)) :
    ofEntries entries = entries.map (fun entry => (⟨entry.1, none⟩, ofJson entry.2)) := by
  induction entries with
  | nil => rfl
  | cons entry entries ih => rw [ofEntries, ih, List.map_cons]

theorem settle_list {depth : Nat} {items : List Tree} {ending : ListEnd} :
    (list items ending).settle (depth + 1) = .ok () ↔
      (∀ item ∈ items, item.settle depth = .ok ()) ∧ ending.keep = .ok () := by
  rw [settle]
  exact check_eq_ok_iff.trans (and_congr_left' forM_eq_ok_iff)

theorem settle_object {depth : Nat} {entries : List (Literal × Tree)} {ending : ObjectEnd} :
    (object entries ending).settle (depth + 1) = .ok () ↔
      (∀ entry ∈ entries, entry.1.unpaired = none ∧ entry.2.settle depth = .ok ()) ∧
        ending.keep = .ok () := by
  rw [settle]
  refine check_eq_ok_iff.trans (and_congr_left' (forM_eq_ok_iff.trans ?_))
  refine forall₂_congr (fun entry _ => ?_)
  rw [bind_eq_ok_iff]
  simp only [Literal.keep_eq_ok_iff]
  exact ⟨fun ⟨_, ⟨paired, _⟩, settled⟩ => ⟨paired, settled⟩,
    fun ⟨paired, settled⟩ => ⟨_, ⟨paired, rfl⟩, settled⟩⟩

/-- A written document can be kept where it nests no deeper than allowed. -/
theorem settle_ofJson {json : Json} {depth : Nat} (fits : json.nesting ≤ depth) :
    (ofJson json).settle depth = .ok () := by
  induction depth generalizing json with
  | zero =>
      cases json with
      | list items => exact absurd fits (Nat.not_succ_le_zero _)
      | object entries => exact absurd fits (Nat.not_succ_le_zero _)
      | _ => rfl
  | succ depth ih =>
      cases json with
      | list items =>
          rw [ofJson, ofItems_eq_map, settle_list, List.forall_mem_map]
          exact ⟨fun item member => ih (Json.nesting_list_le_iff.mp fits item member), rfl⟩
      | object entries =>
          rw [ofJson, ofEntries_eq_map, settle_object, List.forall_mem_map]
          exact ⟨fun entry member => ⟨rfl, ih (Json.nesting_object_le_iff.mp fits entry member)⟩, rfl⟩
      | _ => rfl

end Tree

namespace Reader

variable {α β : Type}

/-- Whether a value is read from a document written for it that nests at most `depth` levels. The
text of such a document holds no number that is out of range. -/
def Recovers (reader : Reader α) (depth : Nat) (json : Json) (value : α) : Prop :=
  json.nesting ≤ depth → json.InRange ∧ ∀ mode, reader mode (.ofJson json) = .ok value

/-- There is nothing to recover where no list and no object may stand. -/
theorem recovers_list_zero {reader : Reader α} {items : List Json} {value : α} :
    reader.Recovers 0 (.list items) value :=
  fun fits => absurd fits (Nat.not_succ_le_zero _)

theorem recovers_object_zero {reader : Reader α} {json : Json} {value : α}
    (written : ∃ entries, json = .object entries) : reader.Recovers 0 json value := by
  obtain ⟨entries, rfl⟩ := written
  exact fun fits => absurd fits (Nat.not_succ_le_zero _)

theorem Recovers.map {reader : Reader α} {depth : Nat} {json : Json} {value : α}
    (recovers : reader.Recovers depth json value) (change : α → β) :
    Recovers (fun mode tree => (reader mode tree).map change) depth json (change value) := by
  intro fits
  obtain ⟨inRange, read⟩ := recovers fits
  exact ⟨inRange, fun mode => map_eq_ok_iff.mpr ⟨value, read mode, rfl⟩⟩

theorem text_recovers (depth : Nat) (value : String) :
    Reader.text.Recovers depth (.text value) value :=
  fun _ => ⟨trivial, fun _ => rfl⟩

theorem boolean_recovers (depth : Nat) (value : Bool) :
    Reader.boolean.Recovers depth (.bool value) value :=
  fun _ => ⟨trivial, fun _ => rfl⟩

theorem bounded_recovers {bound value : Nat} (wanted : Wanted) (depth : Nat) (less : value < bound)
    (small : bound ≤ UInt64.size) :
    (bounded bound wanted).Recovers depth (.number value) value :=
  fun _ => ⟨Nat.lt_of_lt_of_le less small, fun _ => if_pos less⟩

theorem word_recovers (depth : Nat) (value : UInt32) :
    Reader.word.Recovers depth (.number value.toNat) value := by
  have read := bounded_recovers .word depth value.toNat_lt_size (by decide)
  have back := read.map UInt32.ofNat
  rwa [UInt32.ofNat_toNat] at back

theorem count_recovers (depth : Nat) (value : UInt64) :
    Reader.count.Recovers depth (.number value.toNat) value := by
  have read := bounded_recovers .count depth value.toNat_lt_size (Nat.le_refl _)
  have back := read.map UInt64.ofNat
  rwa [UInt64.ofNat_toNat] at back

/-- One of a few names is recovered from its text. -/
theorem name_recovers {options : List (String × α)} {text : String} {value : α} (depth : Nat)
    (known : options.lookup text = some value) :
    (Reader.name options depth).Recovers depth (.text text) value := by
  have found : named options text = .ok value := by
    rw [named, known]
  intro _
  refine ⟨trivial, fun mode => ?_⟩
  cases mode with
  | streamed =>
      cases depth with
      | zero => exact found
      | succ depth => exact found
  | buffered => exact found

/-- What is written for a value that is there must not be taken for one that is not. -/
theorem option_recovers {reader : Reader α} {write : α → Json} {depth : Nat}
    (recovers : ∀ value, reader.Recovers depth (write value) value)
    (visible : ∀ value, write value ≠ .null) (value? : Option α) :
    (Reader.option reader).Recovers depth (.ofOption write value?) value? := by
  intro fits
  cases value? with
  | none => exact ⟨trivial, fun _ => rfl⟩
  | some value =>
      obtain ⟨inRange, read⟩ := recovers value fits
      refine ⟨inRange, fun mode => ?_⟩
      have opened : Reader.option reader mode (.ofJson (write value)) =
          (reader mode (.ofJson (write value))).map some := by
        cases shown : write value with
        | null => exact absurd shown (visible value)
        | _ => rfl
      exact opened.trans (map_eq_ok_iff.mpr ⟨value, read mode, rfl⟩)

theorem option_recovers_object {reader : Reader α} {write : α → Json} {depth : Nat}
    (recovers : ∀ value, reader.Recovers depth (write value) value)
    (written : ∀ value, ∃ entries, write value = .object entries) (value? : Option α) :
    (Reader.option reader).Recovers depth (.ofOption write value?) value? := by
  refine option_recovers recovers (fun value hidden => ?_) value?
  obtain ⟨entries, shown⟩ := written value
  cases hidden.symm.trans shown

theorem items_recovers {reader : Reader α} {write : α → Json} {depth : Nat}
    (recovers : ∀ value, reader.Recovers depth (write value) value) (values : List α) :
    (Reader.items reader).Recovers (depth + 1) (.ofList write values) values := by
  intro fits
  have each : ∀ value ∈ values, (write value).nesting ≤ depth :=
    List.forall_mem_map.mp (Json.nesting_list_le_iff.mp fits)
  refine ⟨Json.itemsInRange_iff.mpr (List.forall_mem_map.mpr
    fun value member => (recovers value (each value member)).1), fun mode => ?_⟩
  have read : ((values.map write).map Tree.ofJson).mapM (reader mode) = .ok values := by
    rw [mapM_eq_ok_iff, List.map_map, List.forall₂_map_left_iff, List.forall₂_same]
    exact fun value member => (recovers value (each value member)).2 mode
  rw [Json.ofList, Tree.ofJson, Tree.ofItems_eq_map]
  exact bind_eq_ok_iff.mpr ⟨values, read, rfl⟩

theorem list_recovers {reader : Nat → Reader α} {write : α → Json}
    (recovers : ∀ depth value, (reader depth).Recovers depth (write value) value) (depth : Nat)
    (values : List α) : (Reader.list reader depth).Recovers depth (.ofList write values) values := by
  cases depth with
  | zero => exact recovers_list_zero
  | succ depth => exact items_recovers (recovers depth) values

end Reader

/-- Whether the fields are written one after another, each so that its value is recovered. -/
inductive Fields.Recover (depth : Nat) : {types : List Type} → Fields types →
    List (String × Json) → Values types → Prop
  | nil : Recover depth .nil [] ()
  | cons {α : Type} {types : List Type} {field : FieldRule α} {rest : Fields types} {json : Json}
      {entries : List (String × Json)} {value : α} {values : Values types}
      (here : field.read.Recovers depth json value) (there : Recover depth rest entries values) :
      Recover depth (.cons field rest) ((field.name, json) :: entries) (Values.cons value values)

/-- Whether the names of the fields differ from one another and from the key of a tag. -/
def Fields.wellNamed {types : List Type} (fields : Fields types) : Bool :=
  decide (Reader.tagKey :: fields.names).Nodup

/-- Whether a value is recovered from the entries written for it, which have no tag. -/
def Layout.Recovers {α : Type} (layout : Layout α) (depth : Nat) (entries : List (String × Json))
    (value : α) : Prop :=
  (∀ entry ∈ entries, entry.1 ≠ Reader.tagKey) ∧
    ((∀ entry ∈ entries, entry.2.nesting ≤ depth) →
      (∀ entry ∈ entries, entry.2.InRange) ∧
        ∀ mode, layout.ofEntries mode (Tree.ofEntries entries) .closed = .ok value)

namespace Fields.Recover

variable {types : List Type} {fields : Fields types} {depth : Nat}
  {entries : List (String × Json)} {values : Values types}

theorem names_eq (recover : fields.Recover depth entries values) :
    entries.map Prod.fst = fields.names := by
  induction recover with
  | nil => rfl
  | cons here there ih => exact congrArg _ ih

private theorem inRange (recover : fields.Recover depth entries values)
    (fits : ∀ entry ∈ entries, entry.2.nesting ≤ depth) : ∀ entry ∈ entries, entry.2.InRange := by
  induction recover with
  | nil => exact fun entry member => absurd member List.not_mem_nil
  | cons here there ih =>
      obtain ⟨first, others⟩ := List.forall_mem_cons.mp fits
      exact List.forall_mem_cons.mpr ⟨(here first).1, ih others⟩

theorem valuesAt_ofEntries_of_notMem {name : String} {entries : List (String × Json)}
    (absent : name ∉ entries.map Prod.fst) : valuesAt name (Tree.ofEntries entries) = [] := by
  induction entries with
  | nil => rfl
  | cons entry entries ih =>
      obtain ⟨different, absent⟩ := not_or.mp (List.mem_cons.not.mp absent)
      rw [Tree.ofEntries, valuesAt_cons, if_neg (Ne.symm different)]
      exact ih absent

/-- What stands under the name of each field is what was written for it. -/
theorem give (recover : fields.Recover depth entries values) (distinct : fields.names.Nodup)
    (fits : ∀ entry ∈ entries, entry.2.nesting ≤ depth) (mode : Mode) :
    fields.Give mode (valuesAt · (Tree.ofEntries entries)) values := by
  induction recover with
  | nil => trivial
  | @cons α types field rest json entries value values here there ih =>
      obtain ⟨absent, restDistinct⟩ := List.nodup_cons.mp distinct
      obtain ⟨first, others⟩ := List.forall_mem_cons.mp fits
      rw [give_cons]
      constructor
      · have single : valuesAt field.name (Tree.ofEntries ((field.name, json) :: entries)) =
            [.ofJson json] := by
          rw [Tree.ofEntries, valuesAt_cons, if_pos rfl,
            valuesAt_ofEntries_of_notMem (there.names_eq ▸ absent)]
        rw [single]
        exact (here first).2 mode
      · refine (Give.congr ?_).mpr (ih restDistinct others)
        intro name member
        have different : field.name ≠ name := fun same => absent (same ▸ member)
        rw [Tree.ofEntries, valuesAt_cons, if_neg different]

/-- A record is recovered if its fields are. -/
theorem layout {α : Type} {title : String} {build : Builder types α} {value : α}
    (named : fields.wellNamed = true) (recover : fields.Recover depth entries values)
    (built : build.apply values = value) :
    (fields.layout title build).Recovers depth entries value := by
  obtain ⟨untagged, distinct⟩ := List.nodup_cons.mp (of_decide_eq_true named)
  rw [← recover.names_eq] at untagged
  refine ⟨fun entry member same => untagged (same ▸ List.mem_map_of_mem member), fun fits => ?_⟩
  refine ⟨recover.inRange fits, fun mode => map_eq_ok_iff.mpr ⟨values, ?_, built⟩⟩
  refine (ofEntries_eq_ok_iff distinct).mpr ⟨rfl, ?_, recover.give distinct fits mode⟩
  rw [Tree.ofEntries_eq_map, List.forall_mem_map]
  intro entry member
  refine ⟨rfl, fun unknown => absurd ?_ unknown⟩
  rw [← recover.names_eq]
  exact List.mem_map_of_mem member

end Fields.Recover

namespace Layout

variable {α β : Type} {layout : Layout α} {depth : Nat} {entries : List (String × Json)} {value : α}

theorem Recovers.map (recovers : layout.Recovers depth entries value) (change : α → β) :
    (layout.map change).Recovers depth entries (change value) := by
  refine ⟨recovers.1, fun fits => ?_⟩
  obtain ⟨inRange, read⟩ := recovers.2 fits
  exact ⟨inRange, fun mode => map_eq_ok_iff.mpr ⟨value, read mode, rfl⟩⟩

theorem Recovers.reader (recovers : layout.Recovers depth entries value) :
    layout.reader.Recovers (depth + 1) (.object entries) value := by
  intro fits
  obtain ⟨inRange, read⟩ := recovers.2 (Json.nesting_object_le_iff.mp fits)
  exact ⟨Json.entriesInRange_iff.mpr inRange, read⟩

end Layout

namespace Reader

variable {α : Type}

theorem record_recovers {layout : Nat → Layout α} {entries : List (String × Json)} {value : α}
    (title : String) (recovers : ∀ depth, (layout depth).Recovers depth entries value) (depth : Nat) :
    (Reader.record title layout depth).Recovers depth (.object entries) value := by
  cases depth with
  | zero => exact recovers_object_zero ⟨entries, rfl⟩
  | succ depth => exact (recovers depth).reader

/-- A choice is recovered if the variant with the written tag recovers it. -/
theorem tagged_recovers_of_read {variants : List (Variant α)} {other? : Option (Variant α)}
    {title : String} {depth : Nat} {entries : List (String × Json)} {value : α} (variant : Variant α)
    (distinct : decide (variants.map Variant.name).Nodup = true) (index : Nat)
    (known : variants[index]? = some variant) (untagged : ∀ entry ∈ entries, entry.1 ≠ tagKey)
    (read : (∀ entry ∈ entries, entry.2.nesting ≤ depth) →
      (∀ entry ∈ entries, entry.2.InRange) ∧
        variant.read (.entries (Tree.ofEntries entries)) = .ok value) :
    (tagged title variants other? depth).Recovers (depth + 1)
      (.object ((tagKey, .text variant.name) :: entries)) value := by
  intro fits
  obtain ⟨_, others⟩ := List.forall_mem_cons.mp (Json.nesting_object_le_iff.mp fits)
  obtain ⟨inRange, read⟩ := read others
  refine ⟨⟨trivial, Json.entriesInRange_iff.mpr inRange⟩, fun mode => ?_⟩
  have kept : Reader.untagged (Tree.ofEntries ((tagKey, .text variant.name) :: entries)) =
      Tree.ofEntries entries := by
    rw [Tree.ofEntries, untagged_cons, if_pos rfl, Reader.untagged, List.filter_eq_self,
      Tree.ofEntries_eq_map, List.forall_mem_map]
    exact fun entry member => decide_eq_true (untagged entry member)
  have told : valuesAt tagKey (Tree.ofEntries ((tagKey, .text variant.name) :: entries)) =
      [.text ⟨variant.name, none⟩] := by
    rw [Tree.ofEntries, valuesAt_cons, if_pos rfl, Fields.Recover.valuesAt_ofEntries_of_notMem]
    · rfl
    · intro member
      obtain ⟨entry, listed, same⟩ := List.mem_map.mp member
      exact untagged entry listed same
  refine tagged_object_eq_ok_iff.mpr ⟨rfl, ?_, variant, ?_, kept.symm ▸ read⟩
  · rw [Tree.ofEntries, List.forall_mem_cons, Tree.ofEntries_eq_map, List.forall_mem_map]
    refine ⟨⟨rfl, fun different => absurd rfl different⟩, fun entry member => ⟨rfl, fun _ => ?_⟩⟩
    cases mode with
    | streamed => exact Tree.settle_ofJson (others entry member)
    | buffered => rfl
  · rw [told]
    have tagRead : tag variants other? mode (.text ⟨variant.name, none⟩) = .ok variant :=
      tag_text (of_decide_eq_true distinct) known
    exact tagRead

theorem tagged_recovers {variants : List (Variant α)} {other? : Option (Variant α)} {title : String}
    {depth : Nat} {kind : String} {layout : Layout α} {entries : List (String × Json)} {value : α}
    (distinct : decide (variants.map Variant.name).Nodup = true) (index : Nat)
    (known : variants[index]? = some (.record kind layout))
    (recovers : layout.Recovers depth entries value) :
    (tagged title variants other? depth).Recovers (depth + 1)
      (.object ((tagKey, .text kind) :: entries)) value := by
  refine tagged_recovers_of_read (.record kind layout) distinct index known recovers.1 (fun fits => ?_)
  obtain ⟨inRange, read⟩ := recovers.2 fits
  exact ⟨inRange, read .buffered⟩

theorem tagged_bare_recovers {variants : List (Variant α)} {other? : Option (Variant α)}
    {title : String} {depth : Nat} {kind : String} {value : α}
    (distinct : decide (variants.map Variant.name).Nodup = true) (index : Nat)
    (known : variants[index]? = some (.bare kind value)) :
    (tagged title variants other? depth).Recovers (depth + 1)
      (.object [(tagKey, .text kind)]) value := by
  have nothing : ∀ entry : String × Json, entry ∈ [] → entry.1 ≠ tagKey :=
    fun entry member => absurd member List.not_mem_nil
  exact tagged_recovers_of_read (.bare kind value) distinct index known nothing
    (fun _ => ⟨fun entry member => absurd member List.not_mem_nil, rfl⟩)

/-- A value is read from the text of its document, however that text is laid out. -/
theorem Recovers.read_text {reader : Nat → Reader α} {json : Json} {value : α}
    (recovers : (reader maxDepth).Recovers maxDepth json value) (fits : json.nesting ≤ maxDepth) :
    (Source.ofText json.compact).read reader = .ok value ∧
      (Source.ofText (json.pretty 0)).read reader = .ok value := by
  obtain ⟨inRange, read⟩ := recovers fits
  have whole : (Source.ofTree (.ofJson json)).read reader = .ok value :=
    Source.read_eq_ok_iff.mpr ⟨read .streamed, rfl⟩
  rw [Json.ofText_compact inRange, (Json.ofText_pretty inRange 0).1]
  exact ⟨whole, whole⟩

end Reader

end ZeroError.Document
