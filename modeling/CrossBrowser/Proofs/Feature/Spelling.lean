import CrossBrowser.Feature.Source
import CrossBrowser.Feature.Writing
import CrossBrowser.Proofs.Document.Json.Values
import CrossBrowser.Proofs.Document.Records

/-! The ways to write a feature as JSON.

A feature can be written with every field, or without some of those that say nothing: an absent
description, absent examples, an empty list, a row that is not ignored. A row of which only the
cells say something can be written as the list of its cells. Whichever way is taken on each level
(`Feature.SpelledAs`), and whether the document stands on one line or is spread over several, the
same feature is read from it (`parse?_spelled`). -/
namespace CrossBrowser
open Document Document.Json

/-! ### The ways to write it -/

/-- The fields of a row. -/
def ExampleRow.members (r : ExampleRow) : List (RecordField Json) :=
  [⟨"cells", .texts r.cells, False⟩, ⟨"tags", .texts r.tags, r.tags = []⟩,
    ⟨"ignored", .bool r.ignored, r.ignored = false⟩]

/-- The ways to write a row. -/
inductive ExampleRow.SpelledAs (r : ExampleRow) : Json → Prop where
  /-- The list of its cells, if there is nothing else to say. -/
  | cells (htags : r.tags = []) (hignored : r.ignored = false) : SpelledAs r (.texts r.cells)
  | record {ms : List (String × Json)} (h : Kept r.members ms) : SpelledAs r (.record ms)

/-- The fields of a table whose rows are written as these values. -/
def ExampleTable.members (t : ExampleTable) (rows : List Json) : List (RecordField Json) :=
  [⟨"columns", .texts t.columns, t.columns = []⟩, ⟨"rows", .array rows, t.rows = []⟩]

/-- The ways to write a table. -/
inductive ExampleTable.SpelledAs (t : ExampleTable) : Json → Prop where
  | record {rows : List Json} {ms : List (String × Json)}
    (hrows : List.Forall₂ ExampleRow.SpelledAs t.rows rows) (h : Kept (t.members rows) ms) :
    SpelledAs t (.record ms)

/-- The ways to write what may be absent: null says that it is. -/
inductive SpelledOptional {α : Type} (spelled : α → Json → Prop) : Option α → Json → Prop where
  | none : SpelledOptional spelled none .null
  | some {x : α} {j : Json} (h : spelled x j) : SpelledOptional spelled (some x) j

/-- The fields of a scenario whose examples are written as this value. -/
def Scenario.members (s : Scenario) (examples : Json) : List (RecordField Json) :=
  [⟨"title", .text s.title, False⟩, ⟨"tags", .texts s.tags, s.tags = []⟩,
    ⟨"examples", examples, s.examples = none⟩]

/-- The ways to write a scenario. -/
inductive Scenario.SpelledAs (s : Scenario) : Json → Prop where
  | record {examples : Json} {ms : List (String × Json)}
    (hexamples : SpelledOptional ExampleTable.SpelledAs s.examples examples)
    (h : Kept (s.members examples) ms) : SpelledAs s (.record ms)

/-- The fields of a feature whose scenarios are written as these values. -/
def Feature.members (f : Feature) (scenarios : List Json) : List (RecordField Json) :=
  [⟨"title", .text f.title, False⟩,
    ⟨"description", .optionalText f.description, f.description = none⟩,
    ⟨"tags", .texts f.tags, f.tags = []⟩, ⟨"scenarios", .array scenarios, f.scenarios = []⟩]

/-- The ways to write a feature. -/
inductive Feature.SpelledAs (f : Feature) : Json → Prop where
  | record {scenarios : List Json} {ms : List (String × Json)}
    (hscenarios : List.Forall₂ Scenario.SpelledAs f.scenarios scenarios)
    (h : Kept (f.members scenarios) ms) : SpelledAs f (.record ms)

/-! ### Reading a row -/

theorem toDatumMembers?_eq_some {levels : Nat} {ms : List (String × Json)} {g : Json → Datum}
    (h : ∀ m ∈ ms, toDatum? levels m.2 = some (g m.2)) :
    toDatumMembers? levels (ms.map fun (name, value) => (some name, value)) =
      some (ms.map fun m => (.text m.1, g m.2)) := by
  induction ms with
  | nil => rw [List.map_nil, toDatumMembers?, List.map_nil]
  | cons m rest ih =>
    rw [List.map_cons, toDatumMembers?, h m List.mem_cons_self,
      ih fun other hother => h other (List.mem_cons_of_mem m hother)]
    rfl

theorem toDatum?_texts (levels : Nat) (xs : List String) :
    toDatum? (levels + 1) (.texts xs) = some (.list (xs.map .text)) := by
  have hitems : toDatumItems? levels (xs.map Json.text) = some (xs.map .text) := by
    induction xs with
    | nil => rw [List.map_nil, toDatumItems?, List.map_nil]
    | cons x rest ih =>
      rw [List.map_cons, toDatumItems?, Json.text, toDatum?, ih]
      rfl
  rw [Json.texts, toDatum?, hitems]
  rfl

theorem mapM_text? (xs : List String) : (xs.map Datum.text).mapM Datum.text? = some xs := by
  rw [List.mapM_map]
  exact (mapM_eq_some fun _ _ => rfl).trans (congrArg some (List.map_id xs))

/-- The datum that a value of a row's record is. -/
def ExampleRow.datumOf (value : Json) : Datum := (toDatum? (nestingLimit - 1) value).getD .null

theorem ExampleRow.datumOf_texts (xs : List String) :
    datumOf (.texts xs) = .list (xs.map .text) := by
  rw [datumOf, nestingLimit, toDatum?_texts 120, Option.getD_some]

theorem ExampleRow.toDatum?_record {r : ExampleRow} {ms : List (String × Json)}
    (h : Kept r.members ms) :
    toDatum? nestingLimit (.record ms) =
      some (.record (ms.map fun m => (.text m.1, datumOf m.2))) := by
  have hvalue : ∀ m ∈ ms, toDatum? (nestingLimit - 1) m.2 = some (datumOf m.2) := by
    intro m hm
    have hsome : ∃ d, toDatum? (nestingLimit - 1) m.2 = some d := by
      obtain ⟨f, hf, rfl⟩ := h.exists_of_mem m hm
      simp only [members, List.mem_cons, List.not_mem_nil, or_false] at hf
      rcases hf with rfl | rfl | rfl
      · exact ⟨_, toDatum?_texts 120 r.cells⟩
      · exact ⟨_, toDatum?_texts 120 r.tags⟩
      · exact ⟨.bool r.ignored, by rw [toDatum?]⟩
    obtain ⟨d, hd⟩ := hsome
    rw [datumOf, hd, Option.getD_some]
  have hmembers : toDatumMembers? 121 _ = _ := toDatumMembers?_eq_some hvalue
  rw [Json.record, nestingLimit, toDatum?, hmembers]
  rfl

theorem ExampleRow.ofEntries?_kept {r : ExampleRow} {ms : List (String × Json)}
    (h : Kept r.members ms) :
    ofEntries? (ms.map fun m => (.text m.1, datumOf m.2)) = some r := by
  have hdata := h.mapValues datumOf
  have hnodup : ["cells", "tags", "ignored"].Nodup := by decide
  have hcells := hdata.required hnodup ⟨"cells", datumOf (.texts r.cells), False⟩
    (by simp [members]) r.cells Datum.texts? (by rw [datumOf_texts]; exact mapM_text? r.cells) id
  have htags := hdata.field hnodup ⟨"tags", datumOf (.texts r.tags), r.tags = []⟩
    (by simp [members]) r.tags [] tags? (by rw [datumOf_texts]; exact mapM_text? r.tags) id
  have hignored := hdata.field hnodup ⟨"ignored", datumOf (.bool r.ignored), r.ignored = false⟩
    (by simp [members]) r.ignored false Datum.bool? (by rw [datumOf, toDatum?]; rfl) id
  have hknown := hdata.knownEntries? false hnodup
  simp only [members, List.map_cons, List.map_nil] at hknown
  rw [ofEntries?, List.mapM_map, mapM_eq_some (g := fun m => (m.1, datumOf m.2))]
  · simp only [fieldNames, hknown, hcells, htags, hignored, Option.bind_eq_bind, Option.bind_some]
    rfl
  · exact fun _ _ => rfl

theorem ExampleRow.read_spelled {r : ExampleRow} {j : Json} (h : r.SpelledAs j) :
    (ExampleRow.read j : Option ExampleRow) = some r := by
  have hread : ∀ d, toDatum? nestingLimit j = some d → ofDatum? d = some r →
      (ExampleRow.read j : Option ExampleRow) = some r := by
    intro d hd hr
    simp only [ExampleRow.read, Readable.datum, hd, Option.bind_eq_bind, Option.bind_some, hr]
    rfl
  cases h with
  | cells htags hignored =>
    refine hread _ (toDatum?_texts 121 r.cells) ?_
    rw [ofDatum?, mapM_text?, Option.map_some, ofCells, ← htags, ← hignored]
  | record h => exact hread _ (toDatum?_record h) (ofEntries?_kept h)

/-! ### Reading a feature -/

/-- A list of values that are each read is read. -/
theorem list_spelled {α : Type} {spelled : α → Json → Prop} {read : Json → Option α}
    {xs : List α} {js : List Json} (h : List.Forall₂ spelled xs js)
    (hread : ∀ x j, spelled x j → read j = some x) : Readable.list read (.array js) = some xs :=
  list_array (h.flip.imp fun j x hx => hread x j hx)

theorem optional_spelled {α : Type} {spelled : α → Json → Prop} {read : Json → Option α}
    {x : Option α} {j : Json} (h : SpelledOptional spelled x j) (hnull : ∀ x, ¬spelled x .null)
    (hread : ∀ x j, spelled x j → read j = some x) : Readable.optional read j = some x := by
  cases h with
  | none => rfl
  | @some x j h =>
    have hpresent : (Readable.present j : Option (Option Json)) = some (some j) := by
      cases j with
      | null => exact absurd h (hnull x)
      | _ => rfl
    simp only [Readable.optional, hpresent, hread x j h, Option.bind_eq_bind, Option.bind_some]
    rfl

theorem optional_optionalText (text : Option String) :
    (Readable.optional Readable.text (Json.optionalText text) : Option (Option String)) =
      some text := by
  cases text <;> rfl

theorem ExampleTable.read_spelled {t : ExampleTable} {j : Json} (h : t.SpelledAs j) :
    (ExampleTable.read j : Option ExampleTable) = some t := by
  obtain @⟨rows, ms, hrows, h⟩ := h
  have hnodup : ["columns", "rows"].Nodup := by decide
  have hfields := fields_record h hnodup
  have hcolumns := h.field hnodup ⟨"columns", .texts t.columns, t.columns = []⟩
    (by simp [members]) t.columns [] Readable.texts (texts_texts t.columns) id
  have hrows := h.field hnodup ⟨"rows", .array rows, t.rows = []⟩ (by simp [members]) t.rows []
    (Readable.list ExampleRow.read) (list_spelled hrows fun _ _ => ExampleRow.read_spelled) id
  simp only [members, List.map_cons, List.map_nil] at hfields
  simp only [ExampleTable.read, hfields, hcolumns, hrows, Option.bind_eq_bind, Option.bind_some]
  rfl

theorem Scenario.read_spelled {s : Scenario} {j : Json} (h : s.SpelledAs j) :
    (Scenario.read j : Option Scenario) = some s := by
  obtain @⟨examples, ms, hexamples, h⟩ := h
  have hnodup : ["title", "tags", "examples"].Nodup := by decide
  have hfields := fields_record h hnodup
  have htitle := h.required hnodup ⟨"title", .text s.title, False⟩ (by simp [members]) s.title
    Readable.text rfl id
  have htags := h.field hnodup ⟨"tags", .texts s.tags, s.tags = []⟩ (by simp [members]) s.tags []
    Readable.texts (texts_texts s.tags) id
  have hexamples := h.field hnodup ⟨"examples", examples, s.examples = none⟩ (by simp [members])
    s.examples none (Readable.optional ExampleTable.read)
    (optional_spelled hexamples (fun _ h => by cases h) fun _ _ => ExampleTable.read_spelled) id
  simp only [members, List.map_cons, List.map_nil] at hfields
  simp only [Scenario.read, hfields, htitle, htags, hexamples, Option.bind_eq_bind,
    Option.bind_some]
  rfl

theorem Feature.read_spelled {f : Feature} {j : Json} (h : f.SpelledAs j) :
    (Feature.read j : Option Feature) = some f := by
  obtain @⟨scenarios, ms, hscenarios, h⟩ := h
  have hnodup : ["title", "description", "tags", "scenarios"].Nodup := by decide
  have hfields := fields_record h hnodup
  have htitle := h.required hnodup ⟨"title", .text f.title, False⟩ (by simp [members]) f.title
    Readable.text rfl id
  have hdescription := h.field hnodup
    ⟨"description", .optionalText f.description, f.description = none⟩ (by simp [members])
    f.description none (Readable.optional Readable.text) (optional_optionalText f.description) id
  have htags := h.field hnodup ⟨"tags", .texts f.tags, f.tags = []⟩ (by simp [members]) f.tags []
    Readable.texts (texts_texts f.tags) id
  have hscenarios := h.field hnodup ⟨"scenarios", .array scenarios, f.scenarios = []⟩
    (by simp [members]) f.scenarios [] (Readable.list Scenario.read)
    (list_spelled hscenarios fun _ _ => Scenario.read_spelled) id
  simp only [members, List.map_cons, List.map_nil] at hfields
  simp only [Feature.read, hfields, htitle, hdescription, htags, hscenarios, Option.bind_eq_bind,
    Option.bind_some]
  rfl

/-! ### Documents -/

theorem plain_texts (xs : List String) : Plain (.texts xs) :=
  .array _ fun item hitem => by
    obtain ⟨x, -, rfl⟩ := List.mem_map.mp hitem
    exact .text x

theorem plain_optionalText (text : Option String) : Plain (.optionalText text) := by
  cases text with
  | none => exact .null
  | some s => exact .text s

/-- What is written of a record whose values are plain is plain. -/
theorem plain_kept {fs : List (RecordField Json)} {ms : List (String × Json)} (h : Kept fs ms)
    (hplain : fs.Forall fun f => Plain f.value) : Plain (.record ms) := by
  refine .record ms fun m hm => ?_
  obtain ⟨f, hf, rfl⟩ := h.exists_of_mem m hm
  exact List.forall_iff_forall_mem.mp hplain f hf

theorem plain_array {α : Type} {spelled : α → Json → Prop} {xs : List α} {js : List Json}
    (h : List.Forall₂ spelled xs js) (hplain : ∀ x j, spelled x j → Plain j) :
    Plain (.array js) := by
  refine .array js ?_
  induction h with
  | nil => exact fun _ hj => absurd hj List.not_mem_nil
  | cons hj _ ih => exact List.forall_mem_cons.mpr ⟨hplain _ _ hj, ih⟩

theorem plain_optional {α : Type} {spelled : α → Json → Prop} {x : Option α} {j : Json}
    (h : SpelledOptional spelled x j) (hplain : ∀ x j, spelled x j → Plain j) : Plain j := by
  cases h with
  | none => exact .null
  | some h => exact hplain _ _ h

theorem ExampleRow.SpelledAs.plain {r : ExampleRow} {j : Json} (h : r.SpelledAs j) : Plain j := by
  cases h with
  | cells => exact plain_texts r.cells
  | record h =>
    exact plain_kept h ⟨plain_texts r.cells, plain_texts r.tags, .bool r.ignored⟩

theorem ExampleTable.SpelledAs.plain {t : ExampleTable} {j : Json} (h : t.SpelledAs j) :
    Plain j := by
  obtain @⟨rows, ms, hrows, h⟩ := h
  exact plain_kept h ⟨plain_texts t.columns, plain_array hrows fun _ _ => ExampleRow.SpelledAs.plain⟩

theorem Scenario.SpelledAs.plain {s : Scenario} {j : Json} (h : s.SpelledAs j) : Plain j := by
  obtain @⟨examples, ms, hexamples, h⟩ := h
  exact plain_kept h ⟨.text s.title, plain_texts s.tags,
    plain_optional hexamples fun _ _ => ExampleTable.SpelledAs.plain⟩

theorem Feature.SpelledAs.plain {f : Feature} {j : Json} (h : f.SpelledAs j) : Plain j := by
  obtain @⟨scenarios, ms, hscenarios, h⟩ := h
  exact plain_kept h ⟨.text f.title, plain_optionalText f.description, plain_texts f.tags,
    plain_array hscenarios fun _ _ => Scenario.SpelledAs.plain⟩

/-! ### The way it is written -/

theorem spelled_map {α : Type} {spelled : α → Json → Prop} {toJson : α → Json}
    (h : ∀ x, spelled x (toJson x)) (xs : List α) : List.Forall₂ spelled xs (xs.map toJson) := by
  rw [List.forall₂_map_right_iff, List.forall₂_same]
  exact fun x _ => h x

theorem ExampleRow.spelledAs_toJson (r : ExampleRow) : r.SpelledAs r.toJson :=
  .record (Kept.all r.members)

theorem ExampleTable.spelledAs_toJson (t : ExampleTable) : t.SpelledAs t.toJson :=
  .record (spelled_map ExampleRow.spelledAs_toJson t.rows) (Kept.all _)

theorem spelledOptional_toJson {α : Type} {spelled : α → Json → Prop} {toJson : α → Json}
    (h : ∀ x, spelled x (toJson x)) (x : Option α) :
    SpelledOptional spelled x ((x.map toJson).getD .null) := by
  cases x with
  | none => exact .none
  | some x => exact .some (h x)

theorem Scenario.spelledAs_toJson (s : Scenario) : s.SpelledAs s.toJson :=
  .record (spelledOptional_toJson ExampleTable.spelledAs_toJson s.examples) (Kept.all _)

theorem Feature.spelledAs_toJson (f : Feature) : f.SpelledAs f.toJson :=
  .record (spelled_map Scenario.spelledAs_toJson f.scenarios) (Kept.all _)

/-- A feature is read from every way to write it. -/
theorem Feature.ofJson?_write {f : Feature} {j : Json} (h : f.SpelledAs j) {s : Spacing}
    (hs : s.Blank) : ofJson? (write s 0 j) = some f := by
  rw [ofJson?, parse_write h.plain hs]
  exact read_spelled h

/-- A feature is read again from the JSON it is written as. The same feature is read however it is
spelled, on one line or several. -/
theorem Feature.parse?_spelled (f : Feature) :
    parse? .json f.toJson.compact = some f ∧ f.SpelledAs f.toJson ∧
      ∀ j, f.SpelledAs j →
        parse? .json j.compact = some f ∧ parse? .json j.pretty = some f :=
  ⟨ofJson?_write f.spelledAs_toJson compact_blank, f.spelledAs_toJson,
    fun _ h => ⟨ofJson?_write h compact_blank, ofJson?_write h pretty_blank⟩⟩

theorem Feature.parse?_spelled_short :
    parse? .json
        (Json.compact (.record
          [("title", .text "Search"),
            ("scenarios", .array
              [.record
                [("title", .text "Find"), ("tags", .texts ["smoke"]),
                  ("examples", .record
                    [("rows", .array
                      [.texts ["cat", "dog"],
                        .record [("cells", .texts ["bee"]), ("ignored", .bool true)]])])]])])) =
      some ⟨"Search", none, [],
        [⟨"Find", ["smoke"], some ⟨[], [.ofCells ["cat", "dog"], ⟨["bee"], [], true⟩]⟩⟩]⟩ := by
  refine ((parse?_spelled _).2.2 _ ?_).1
  refine .record (.cons ?scenario .nil) (.keep _ (.leaveOut _ rfl (.leaveOut _ rfl (.keep _ .nil))))
  refine .record (.some ?table) (.keep _ (.keep _ (.keep _ .nil)))
  refine .record (.cons (.cells rfl rfl) (.cons ?row .nil)) (.leaveOut _ rfl (.keep _ .nil))
  exact .record (.keep _ (.leaveOut _ rfl (.keep _ .nil)))

end CrossBrowser
