import CrossBrowser.Proofs.Expansion.Distinct
import CrossBrowser.Proofs.TestMethod.Adding

/-! What adding browsers and rows makes of a method.

Each step is stated as an equation: which fields of the method it changes, and to what. Browsers
that are added are noted where they first come (`Metadata.noting`), and their cases are added one
after the other. A row comes to a method with browsers as a block of cases, one on each of them
(`rowBlock`), and the first row also has the browsers noted that were noted under other keys
(`foldl_setRow_targeted`). In a method whose only notes are the browsers it targets
(`Metadata.ofBrowsers`), the blocks of rows that agree take the place of each other
(`foldl_setRow_browsers`). -/
namespace CrossBrowser

/-! ### Recording browsers -/

theorem targetsBrowser_browserKey (id : String) : targetsBrowser (browserKey id) = true := by
  have h : (browserKey id).toList = browserMarker.toList ++ id.toList := String.toList_append
  rw [targetsBrowser, h]
  rfl

theorem browserKey_injective {id id' : String} (h : browserKey id = browserKey id') : id = id' := by
  have h' := congrArg String.toList h
  simp only [browserKey, String.toList_append, List.append_cancel_left_eq] at h'
  exact String.toList_inj.mp h'

namespace Metadata

/-- The notes with these browsers recorded, each where it first comes, and none whose key is
taken. -/
def noting (m : Metadata) (ids : List String) : Metadata :=
  ⟨m.entries ++
    ((distinct [] ids).filter (browserKey · ∉ m.keys)).map fun id => (browserKey id, id)⟩

theorem mem_keys_noting (m : Metadata) (ids : List String) (id : String) :
    browserKey id ∈ (m.noting ids).keys ↔ browserKey id ∈ m.keys ∨ id ∈ ids := by
  have hkeys : (m.noting ids).keys =
      m.keys ++ ((distinct [] ids).filter (browserKey · ∉ m.keys)).map browserKey := by
    rw [keys, noting, List.map_append, List.map_map]
    rfl
  rw [hkeys, List.mem_append, List.mem_map]
  constructor
  · rintro (h | ⟨id', hmem, he⟩)
    · exact .inl h
    · obtain rfl := browserKey_injective he
      exact .inr ((mem_distinct _ _ _).mp (List.mem_filter.mp hmem).1).1
  · intro h
    by_cases hk : browserKey id ∈ m.keys
    · exact .inl hk
    · have hid := (mem_distinct [] ids id).mpr ⟨h.resolve_left hk, List.not_mem_nil⟩
      exact .inr ⟨id, List.mem_filter.mpr ⟨hid, decide_eq_true hk⟩, rfl⟩

/-- Browsers whose keys are taken leave the notes as they are. -/
theorem noting_of_recorded (m : Metadata) (ids : List String)
    (h : ∀ id ∈ ids, browserKey id ∈ m.keys) : m.noting ids = m := by
  have hnone : (distinct [] ids).filter (browserKey · ∉ m.keys) = [] := by
    refine List.filter_eq_nil_iff.mpr fun id hid => ?_
    simpa using h id ((mem_distinct _ _ _).mp hid).1
  rw [noting, hnone, List.map_nil, List.append_nil]

/-- One more browser is noted at the end. -/
theorem insertIfAbsent_noting (m : Metadata) (ids : List String) (id : String) :
    (m.noting ids).insertIfAbsent (browserKey id) id = m.noting (ids ++ [id]) := by
  by_cases hid : id ∈ ids
  · rw [insertIfAbsent_of_mem _ _ _ ((mem_keys_noting m ids id).mpr (.inr hid)), noting, noting,
      distinct_concat_of_mem _ _ hid]
  · rw [noting.eq_1 m (ids ++ [id]), distinct_concat_of_not_mem _ _ hid, List.filter_append]
    by_cases hk : browserKey id ∈ m.keys
    · rw [insertIfAbsent_of_mem _ _ _ ((mem_keys_noting m ids id).mpr (.inl hk)), noting,
        List.filter_cons_of_neg (by simpa using hk), List.filter_nil, List.append_nil]
    · have hfree : browserKey id ∉ (m.noting ids).keys := fun hmem =>
        ((mem_keys_noting m ids id).mp hmem).elim hk hid
      rw [insertIfAbsent_of_not_mem _ _ _ hfree, noting,
        List.filter_cons_of_pos (by simpa using hk), List.filter_nil, List.map_append,
        List.append_assoc]
      rfl

/-- Browsers that are noted one after the other. -/
theorem foldl_insertIfAbsent (m : Metadata) (ids : List String) :
    ids.foldl (fun m id => m.insertIfAbsent (browserKey id) id) m = m.noting ids := by
  induction ids using List.reverseRecOn with
  | nil => exact (noting_of_recorded m [] fun _ h => absurd h List.not_mem_nil).symm
  | append_singleton ids id ih =>
    rw [List.foldl_append, ih, List.foldl_cons, List.foldl_nil, insertIfAbsent_noting]

/-! #### The browsers that are recorded -/

theorem browsers_noting (m : Metadata) (ids : List String) :
    (m.noting ids).browsers =
      m.browsers ++ (distinct [] ids).filter (browserKey · ∉ m.keys) := by
  have hadded : ∀ added : List String,
      ((added.map fun id => (browserKey id, id)).filter fun entry => targetsBrowser entry.1) =
        added.map fun id => (browserKey id, id) := by
    intro added
    refine List.filter_eq_self.mpr fun entry hentry => ?_
    obtain ⟨id, _, rfl⟩ := List.mem_map.mp hentry
    exact targetsBrowser_browserKey id
  rw [browsers, noting, List.filter_append, hadded, List.map_append, List.map_map]
  exact congrArg _ (List.map_id _)

/-- The distinct browsers are the same when all of them have been noted under their own keys. -/
theorem distinct_browsers_noting (m : Metadata) :
    distinct [] (m.noting m.browsers).browsers = distinct [] m.browsers := by
  rw [browsers_noting]
  refine distinct_append_of_subset _ _ fun id hid => ?_
  exact ((mem_distinct _ _ _).mp (List.mem_filter.mp hid).1).1

theorem mem_browsers_noting (m : Metadata) (id : String) :
    id ∈ (m.noting m.browsers).browsers ↔ id ∈ m.browsers := by
  have hdistinct : ∀ ids : List String, id ∈ ids ↔ id ∈ distinct [] ids := fun ids => by
    rw [mem_distinct, and_iff_left List.not_mem_nil]
  rw [hdistinct, distinct_browsers_noting, ← hdistinct]

/-- Once all browsers have been noted under their own keys, nothing more is noted for them. -/
theorem noting_twice (m : Metadata) :
    (m.noting m.browsers).noting (m.noting m.browsers).browsers = m.noting m.browsers :=
  noting_of_recorded _ _ fun id hid =>
    (mem_keys_noting m m.browsers id).mpr (.inr ((mem_browsers_noting m id).mp hid))

/-- The notes of a method that targets these browsers. -/
def ofBrowsers (browsers : List String) : Metadata :=
  ⟨browsers.map fun id => (browserKey id, id)⟩

theorem noting_empty (ids : List String) : empty.noting ids = ofBrowsers (distinct [] ids) := by
  have hall : (distinct [] ids).filter (browserKey · ∉ empty.keys) = distinct [] ids :=
    List.filter_eq_self.mpr fun _ _ => rfl
  rw [noting, hall]
  rfl

theorem browsers_ofBrowsers (browsers : List String) : (ofBrowsers browsers).browsers = browsers := by
  have hall : (ofBrowsers browsers).entries.filter (fun entry => targetsBrowser entry.1) =
      browsers.map fun id => (browserKey id, id) := by
    refine List.filter_eq_self.mpr fun entry hentry => ?_
    obtain ⟨id, _, rfl⟩ := List.mem_map.mp hentry
    exact targetsBrowser_browserKey id
  rw [Metadata.browsers, hall, List.map_map]
  exact List.map_id browsers

theorem noting_ofBrowsers (browsers : List String) :
    (ofBrowsers browsers).noting browsers = ofBrowsers browsers :=
  noting_of_recorded _ _ fun _ hid => List.mem_map.mpr ⟨_, List.mem_map_of_mem hid, rfl⟩

end Metadata

/-! ### Blocks of cases -/

/-- The case of a browser alone. -/
def browserAloneCase (title id : String) : TestCase :=
  browserCase id (browserCaseName title (browserLabel id)) none

/-- What an example row contributes. -/
def ExampleRow.contribution (r : ExampleRow) : RowArguments :=
  RowArguments.ofRow r.cells r.tags r.ignored

/-- The cases of a row: one on each browser. -/
def rowBlock (title : String) (browsers : List String) (r : ExampleRow) : List TestCase :=
  browsers.map (browserRowCase title r.contribution)

theorem origin_of_mem_rowBlock (title : String) (browsers : List String) (r : ExampleRow)
    (c : TestCase) (h : c ∈ rowBlock title browsers r) : c.origin = .browserRow := by
  obtain ⟨id, _, rfl⟩ := List.mem_map.mp h
  rfl

theorem tagsLiteral_injective {tags tags' : List String}
    (h : RowArguments.tagsLiteral tags = RowArguments.tagsLiteral tags') : tags = tags' := by
  unfold RowArguments.tagsLiteral at h
  split at h <;> split at h <;> simp_all

/-- The arguments of a row tell its cells and its tags. -/
theorem contribution_arguments_inj (r s : ExampleRow) :
    r.contribution.arguments = s.contribution.arguments ↔ r.Agrees s := by
  simp only [ExampleRow.contribution, RowArguments.ofRow]
  constructor
  · intro h
    obtain ⟨hcells, htags⟩ := List.append_inj' h rfl
    refine ⟨List.map_injective_iff.mpr (fun _ _ => Literal.text.inj) hcells, ?_⟩
    exact tagsLiteral_injective (List.singleton_inj.mp htags)
  · rintro ⟨hcells, htags⟩
    rw [hcells, htags]

namespace TestMethod

theorem browserCase_arguments_head (id name : String) (row : Option RowArguments) :
    (browserCase id name row).arguments.head? = some (.text id) := rfl

theorem supersedes_browserAloneCase (title : String) (id id' : String) :
    supersedes (browserAloneCase title id) (browserAloneCase title id') = true ↔ id' = id := by
  simp [supersedes_iff, browserAloneCase, browserCase]

theorem supersedes_browserRowCase (title : String) (r s : ExampleRow) (id id' : String) :
    supersedes (browserRowCase title r.contribution id) (browserRowCase title s.contribution id') =
      true ↔ id' = id ∧ s.Agrees r := by
  rw [supersedes_iff, ← contribution_arguments_inj]
  simp [browserRowCase, browserCase]

/-- A browser that comes again does not matter: its case is there. -/
theorem addForBrowsers_distinct (name : String → String) (row : Option RowArguments)
    (ids : List String) (cases : List TestCase) :
    addForBrowsers cases (ids.map fun id => browserCase id (name id) row) =
      addForBrowsers cases ((distinct [] ids).map fun id => browserCase id (name id) row) := by
  induction ids using List.reverseRecOn with
  | nil => rfl
  | append_singleton ids id ih =>
    by_cases hid : id ∈ ids
    · rw [distinct_concat_of_mem _ _ hid, List.map_append, addForBrowsers_append, ← ih]
      refine replaceOrAppend_of_mem (fun c hc => ?_) (browserCase id (name id) row)
        (List.mem_map.mpr ⟨id, hid, rfl⟩) (fun c hc he => ?_) cases
      · obtain ⟨id', _, rfl⟩ := List.mem_map.mp hc
        exact browserCase_origin id' _ row
      · obtain ⟨id', _, rfl⟩ := List.mem_map.mp hc
        have hhead := congrArg List.head? he
        rw [browserCase_arguments_head, browserCase_arguments_head] at hhead
        rw [Literal.text.inj (Option.some.inj hhead)]
    · rw [distinct_concat_of_not_mem _ _ hid, List.map_append, List.map_append,
        addForBrowsers_append, addForBrowsers_append, ih]

/-- A row comes to blocks of other rows as a block of its own, in the place of the block of the row
it agrees with, or else at the end. `before` are the blocks that have been gone past. -/
theorem addForBrowsers_rowBlock (title : String) (browsers : List String)
    (hnodup : browsers.Nodup) (r : ExampleRow) (rows : List ExampleRow) (before : List TestCase)
    (hbefore : ∀ id ∈ browsers, ∀ c ∈ before,
      supersedes (browserRowCase title r.contribution id) c = false) :
    addForBrowsers (before ++ rows.flatMap (rowBlock title browsers))
        (rowBlock title browsers r) =
      before ++ (mergeRow r rows).flatMap (rowBlock title browsers) := by
  have hself : ∀ x ∈ browsers, ∀ y ∈ browsers,
      supersedes (browserRowCase title r.contribution x) (browserRowCase title r.contribution y) =
        true → x = y :=
    fun x _ y _ h => ((supersedes_browserRowCase title r r x y).mp h).1.symm
  induction rows generalizing before with
  | nil =>
    rw [List.flatMap_nil, List.append_nil, rowBlock, addForBrowsers_new _ _ hnodup hself _ hbefore]
    simp [mergeRow, rowBlock]
  | cons s rest ih =>
    rw [List.flatMap_cons, mergeRow]
    by_cases h : r.Agrees s
    · rw [if_pos h, List.flatMap_cons]
      refine addForBrowsers_block _ _ _ hnodup hself (fun x _ => ?_) before _ hbefore
      exact (supersedes_browserRowCase title r s x x).mpr ⟨rfl, h.1.symm, h.2.symm⟩
    · rw [if_neg h, List.flatMap_cons, ← List.append_assoc, ← List.append_assoc]
      refine ih _ fun id hid c hc => ?_
      rcases List.mem_append.mp hc with hc | hc
      · exact hbefore id hid c hc
      · obtain ⟨id', _, rfl⟩ := List.mem_map.mp hc
        refine Bool.eq_false_iff.mpr fun hs => h ?_
        obtain ⟨_, hcells, htags⟩ := (supersedes_browserRowCase title r s id id').mp hs
        exact ⟨hcells.symm, htags.symm⟩

/-- The blocks of rows that come one after the other are merged. -/
theorem addForBrowsers_rowBlocks (title : String) (browsers : List String)
    (hnodup : browsers.Nodup) (rows : List ExampleRow) :
    addForBrowsers [] (rows.flatMap (rowBlock title browsers)) =
      (mergedRows rows).flatMap (rowBlock title browsers) := by
  induction rows using List.reverseRecOn with
  | nil => rfl
  | append_singleton rows r ih =>
    have hblock := addForBrowsers_rowBlock title browsers hnodup r (mergedRows rows) []
      (fun _ _ _ h => absurd h List.not_mem_nil)
    rw [List.nil_append, List.nil_append] at hblock
    rw [List.flatMap_append, List.flatMap_singleton, addForBrowsers_append, ih, hblock,
      mergedRows_concat]

/-! ### Adding browsers to a method -/

theorem addBrowser_eq (m : TestMethod) (id : String) (name : Option String)
    (row : Option RowArguments) :
    m.addBrowser id name row =
      { m with
        metadata := m.metadata.insertIfAbsent (browserKey id) id
        cases := replaceOrAppend
          (browserCase id (name.getD (browserCaseName m.title (browserLabel id))) row) m.cases } := by
  rw [addBrowser, pushCase_browser _ _ (browserCase_origin _ _ row)]

/-- Browsers that come to a method are noted, and their cases are added. -/
theorem foldl_addBrowser (m : TestMethod) (ids : List String) (name : String → Option String)
    (row : Option RowArguments) :
    ids.foldl (fun m id => m.addBrowser id (name id) row) m =
      { m with
        metadata := m.metadata.noting ids
        cases := addForBrowsers m.cases (ids.map fun id =>
          browserCase id ((name id).getD (browserCaseName m.title (browserLabel id))) row) } := by
  rw [← Metadata.foldl_insertIfAbsent]
  induction ids generalizing m with
  | nil => rfl
  | cons id rest ih =>
    rw [List.foldl_cons, ih, addBrowser_eq]
    rfl

/-- Browsers that come to a method without cases and notes get a case each, where they first
come. -/
theorem foldl_addBrowser_alone (ids : List String) (m : TestMethod) (hcases : m.cases = [])
    (hnotes : m.metadata = .empty) :
    ids.foldl (fun m id => m.addBrowser id none none) m =
      { m with
        metadata := .ofBrowsers (distinct [] ids)
        cases := (distinct [] ids).map (browserAloneCase m.title) } := by
  have halone := addForBrowsers_new (browserAloneCase m.title) (distinct [] ids)
    (distinct_nodup _ _)
    (fun x _ y _ h => ((supersedes_browserAloneCase m.title x y).mp h).symm) []
    (fun _ _ _ h => absurd h List.not_mem_nil)
  rw [List.nil_append] at halone
  rw [foldl_addBrowser, hcases, hnotes, Metadata.noting_empty, addForBrowsers_distinct, ← halone]
  rfl

/-! ### Adding rows to a method -/

/-- A row on a method that targets browsers: these are noted under their own keys, the cases of the
browsers alone go, and the row's own come, one for each distinct browser. -/
theorem setRow_targeted (m : TestMethod) (h : m.metadata.browsers ≠ [])
    (cells tags : List String) (ignored : Bool) :
    m.setRow cells tags ignored =
      { m with
        metadata := m.metadata.noting m.metadata.browsers
        cases := addForBrowsers (m.cases.filter (·.origin ≠ .browser))
          ((distinct [] m.metadata.browsers).map
            (browserRowCase m.title (.ofRow cells tags ignored))) } := by
  rw [setRow, if_neg h, fanOut, foldl_addBrowser, addForBrowsers_distinct]
  rfl

/-- A method that targets browsers and that a row has come to: all its browsers are noted under
their own keys, and it has no cases of the browsers alone. -/
structure AfterRow (m : TestMethod) : Prop where
  targeted : m.metadata.browsers ≠ []
  noted : m.metadata.noting m.metadata.browsers = m.metadata
  alone : ∀ c ∈ m.cases, c.origin ≠ .browser

/-- The method when its browsers have been noted under their own keys, and when cases of rows have
come in the place of the browsers' own. -/
def withRowCases (m : TestMethod) (new : List TestCase) : TestMethod :=
  { m with
    metadata := m.metadata.noting m.metadata.browsers
    cases := addForBrowsers (m.cases.filter (·.origin ≠ .browser)) new }

theorem afterRow_withRowCases (m : TestMethod) (hne : m.metadata.browsers ≠ [])
    (new : List TestCase) (hnew : ∀ c ∈ new, c.origin = .browserRow) :
    AfterRow (m.withRowCases new) where
  targeted := by
    rw [withRowCases, Metadata.browsers_noting]
    exact List.append_ne_nil_of_left_ne_nil hne _
  noted := Metadata.noting_twice m.metadata
  alone c hc := by
    rcases mem_addForBrowsers _ _ c hc with hc | hc
    · exact of_decide_eq_true (List.mem_filter.mp hc).2
    · exact hnew c hc ▸ by decide

/-- A row that comes after another one adds its block of cases. -/
theorem AfterRow.setRow {m : TestMethod} (h : AfterRow m) (r : ExampleRow) :
    m.setRow r.cells r.tags r.ignored =
      { m with
        cases := addForBrowsers m.cases
          (rowBlock m.title (distinct [] m.metadata.browsers) r) } := by
  have hkept : m.cases.filter (·.origin ≠ .browser) = m.cases :=
    List.filter_eq_self.mpr fun c hc => decide_eq_true (h.alone c hc)
  rw [setRow_targeted m h.targeted, hkept, h.noted]
  rfl

/-- Rows that come after another one add their blocks of cases. -/
theorem AfterRow.foldl_setRow {m : TestMethod} (h : AfterRow m) (rows : List ExampleRow) :
    rows.foldl (fun m r => m.setRow r.cells r.tags r.ignored) m =
      { m with
        cases := addForBrowsers m.cases
          (rows.flatMap (rowBlock m.title (distinct [] m.metadata.browsers))) } := by
  induction rows generalizing m with
  | nil => rfl
  | cons r rest ih =>
    let block := rowBlock m.title (distinct [] m.metadata.browsers) r
    have hnext : AfterRow { m with cases := addForBrowsers m.cases block } := by
      refine ⟨h.targeted, h.noted, fun c hc => ?_⟩
      rcases mem_addForBrowsers _ _ c hc with hc | hc
      · exact h.alone c hc
      · exact origin_of_mem_rowBlock _ _ r c hc ▸ by decide
    rw [List.foldl_cons, h.setRow r, ih hnext, List.flatMap_cons, addForBrowsers_append]
    rfl

/-- Rows on a method that targets browsers: these are noted under their own keys, the cases of the
browsers alone go, and the blocks of the rows come. -/
theorem foldl_setRow_targeted (m : TestMethod) (hne : m.metadata.browsers ≠ [])
    (rows : List ExampleRow) (hrows : rows ≠ []) :
    rows.foldl (fun m r => m.setRow r.cells r.tags r.ignored) m =
      m.withRowCases (rows.flatMap (rowBlock m.title (distinct [] m.metadata.browsers))) := by
  obtain ⟨r, rest, rfl⟩ := List.exists_cons_of_ne_nil hrows
  let block := rowBlock m.title (distinct [] m.metadata.browsers) r
  have hfirst := afterRow_withRowCases m hne block (origin_of_mem_rowBlock _ _ r)
  have step : m.setRow r.cells r.tags r.ignored = m.withRowCases block :=
    setRow_targeted m hne _ _ _
  have hdistinct : distinct [] (m.withRowCases block).metadata.browsers =
      distinct [] m.metadata.browsers := Metadata.distinct_browsers_noting m.metadata
  rw [List.foldl_cons, step, hfirst.foldl_setRow rest, hdistinct, List.flatMap_cons, withRowCases,
    withRowCases, addForBrowsers_append]
  rfl

/-- Rows on a method that targets browsers and has no other notes and no other cases: their blocks,
merged, and nothing else. -/
theorem foldl_setRow_browsers (m : TestMethod) (browsers : List String) (hne : browsers ≠ [])
    (hnodup : browsers.Nodup) (hnotes : m.metadata = .ofBrowsers browsers)
    (hcases : m.cases.filter (·.origin ≠ .browser) = []) (rows : List ExampleRow)
    (hrows : rows ≠ []) :
    rows.foldl (fun m r => m.setRow r.cells r.tags r.ignored) m =
      { m with cases := (mergedRows rows).flatMap (rowBlock m.title browsers) } := by
  have hbrowsers : m.metadata.browsers = browsers := by
    rw [hnotes, Metadata.browsers_ofBrowsers]
  rw [foldl_setRow_targeted m (hbrowsers ▸ hne) rows hrows, withRowCases, hbrowsers, hcases,
    distinct_of_nodup browsers hnodup, addForBrowsers_rowBlocks _ _ hnodup, hnotes,
    Metadata.noting_ofBrowsers, ← hnotes]

/-- Rows on a method without browsers: one case each, at the end. -/
theorem foldl_setRow_plain (rows : List ExampleRow) (m : TestMethod)
    (hnotes : m.metadata.browsers = []) :
    rows.foldl (fun m r => m.setRow r.cells r.tags r.ignored) m =
      { m with cases := m.cases ++ rows.map (·.contribution.toCase) } := by
  induction rows generalizing m with
  | nil => rw [List.map_nil, List.append_nil]; rfl
  | cons r rest ih =>
    have step : m.setRow r.cells r.tags r.ignored =
        { m with cases := m.cases ++ [r.contribution.toCase] } := by
      rw [setRow, if_pos hnotes]
      rfl
    rw [List.foldl_cons, step, ih { m with cases := m.cases ++ [r.contribution.toCase] } hnotes,
      List.map_cons, List.append_assoc, List.singleton_append]

end TestMethod
end CrossBrowser
