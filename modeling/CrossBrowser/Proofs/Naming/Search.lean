import CrossBrowser.Proofs.Naming.Parameters

/-! Which names columns get for their parameters.

A column tries its own name, and then that name with 1, 2, … after it, until it finds a free one
(`Search`). The names it tries differ, so one of the first is free, as many as there are taken names
and one more, and the search ends with it (`firstFree_eq_attempt`, `FirstFree.search_iff`). Escaping
comes after the search: for the columns after it, a name is taken as it was before. A free name that
ends in no digit is found exactly if it is the own name of a column (`mem_distinctNames_iff`). -/
namespace CrossBrowser.Naming

/-! ### One column -/

/-- The names that a column tries, its own first. -/
def attempt (base : String) : Nat → String
  | 0 => base
  | i + 1 => base ++ toString (i + 1)

/-- A search that stands at a name and gives the next one a number, and the name that it ends
with. -/
inductive Search (taken : List String) (base : String) : String → Nat → String → Prop where
  | free {name number} : name ∉ taken → Search taken base name number name
  | next {name number found} : name ∈ taken →
      Search taken base (base ++ toString number) (number + 1) found →
      Search taken base name number found

/-- A name is free, and all those tried before it are taken. -/
structure FirstFree (taken : List String) (base : String) (i : Nat) : Prop where
  free : attempt base i ∉ taken
  before : ∀ j < i, attempt base j ∈ taken

theorem candidates_eq (base : String) (count : Nat) :
    candidates base count = (List.range (count + 1)).map (attempt base) := by
  rw [candidates, List.range_succ_eq_map, List.map_cons, List.map_map]
  rfl

/-- A column gets the first free name, and one more than there are taken names is always enough to
find it. -/
theorem firstFree_eq_attempt (taken : List String) (base : String) :
    ∃ i ≤ taken.length, firstFree taken base = attempt base i ∧ FirstFree taken base i := by
  have hfree := firstFree_not_mem taken base
  cases hfind : (candidates base taken.length).find? (· ∉ taken) with
  | none =>
    have htaken := List.find?_eq_none.mp hfind base List.mem_cons_self
    rw [firstFree, hfind] at hfree
    exact absurd (decide_eq_true hfree) htaken
  | some name =>
    obtain ⟨_, i, hi, hname, hbefore⟩ := List.find?_eq_some_iff_getElem.mp hfind
    rw [firstFree, hfind] at hfree ⊢
    simp only [candidates_eq, List.length_map, List.length_range] at hi
    simp only [candidates_eq, List.getElem_map, List.getElem_range] at hname hbefore
    refine ⟨i, Nat.le_of_lt_succ hi, hname.symm, hname ▸ hfree, fun j hj => ?_⟩
    simpa using hbefore j hj

theorem FirstFree.search {taken : List String} {base : String} {i : Nat}
    (h : FirstFree taken base i) : Search taken base base 1 (attempt base i) := by
  -- From each name before the free one the search goes on to the next.
  have hfrom : ∀ left j, j + left = i →
      Search taken base (attempt base j) (j + 1) (attempt base i) := by
    intro left
    induction left with
    | zero =>
      rintro j rfl
      exact .free h.free
    | succ left ih =>
      intro j hj
      exact .next (h.before j (by omega)) (ih (j + 1) (by omega))
  exact hfrom i 0 (Nat.zero_add i)

theorem Search.unique {taken : List String} {base name found found' : String} {number : Nat}
    (h : Search taken base name number found) (h' : Search taken base name number found') :
    found = found' := by
  induction h with
  | free hfree =>
    cases h' with
    | free => rfl
    | next htaken => exact absurd htaken hfree
  | next htaken _ ih =>
    cases h' with
    | free hfree => exact absurd htaken hfree
    | next _ h' => exact ih h'

/-- The search ends, and with the first free name. -/
theorem FirstFree.search_iff {taken : List String} {base : String} {i : Nat}
    (h : FirstFree taken base i) (found : String) :
    Search taken base base 1 found ↔ found = attempt base i := by
  constructor
  · exact fun hfound => hfound.unique h.search
  · rintro rfl
    exact h.search

/-! ### All columns -/

/-- Each column gets its name after the columns before it. -/
theorem getElem?_distinctNames (columns taken : List String) (i : Nat) (column : String)
    (h : columns[i]? = some column) :
    (distinctNames taken columns)[i]? =
      some (firstFree (taken ++ (distinctNames taken columns).take i) (parameterName column)) := by
  induction columns generalizing taken i with
  | nil => cases h
  | cons first rest ih =>
    cases i with
    | zero =>
      obtain rfl : first = column := Option.some.inj h
      simp [distinctNames]
    | succ i =>
      have hrest := ih (taken ++ [firstFree taken (parameterName first)]) i h
      simpa [distinctNames] using hrest

/-- The names for columns can be read back from those of their parameters. -/
theorem map_unescape_parameterNames (columns reserved : List String) :
    (parameterNames columns reserved).map unescape = distinctNames reserved columns := by
  have hplain := inNames_ne_at.distinctNames reserved columns
  rw [parameterNames, List.map_map]
  exact (List.map_congr_left fun name hname => unescape_escape (hplain name hname)).trans
    (List.map_id _)

/-! ### Names without a number after them -/

/-- Whether the last character of a name, if there is one, is not a digit. -/
def EndsInNoDigit (name : String) : Prop := ∀ c ∈ name.toList.getLast?, c.isDigit = false

instance (name : String) : Decidable (EndsInNoDigit name) := Option.decidableForallMem _

theorem eq_zero_of_attempt {base : String} {i : Nat} (h : EndsInNoDigit (attempt base i)) :
    i = 0 := by
  cases i with
  | zero => rfl
  | succ i =>
    have hdigits : Nat.toDigits 10 (i + 1) ≠ [] := Nat.toDigits_ne_nil
    have hlast := List.getLast?_eq_some_getLast hdigits
    have hdigit := h ((Nat.toDigits 10 (i + 1)).getLast hdigits) <| by
      rw [attempt, String.toList_append, Nat.toString_eq_ofList_toDigits, String.toList_ofList,
        List.getLast?_append_of_ne_nil _ hdigits, hlast]
      rfl
    rw [Nat.isDigit_of_mem_toDigits (by decide) (by decide) (List.getLast_mem hdigits)] at hdigit
    cases hdigit

/-- A free name that ends in no digit goes to a column exactly if it is its own name. -/
theorem firstFree_eq_iff {taken : List String} {name : String} (hfree : name ∉ taken)
    (hname : EndsInNoDigit name) (base : String) : firstFree taken base = name ↔ base = name := by
  obtain ⟨i, _, heq, hfirst⟩ := firstFree_eq_attempt taken base
  rw [heq]
  constructor
  · rintro rfl
    rw [eq_zero_of_attempt hname, attempt]
  · rintro rfl
    cases i with
    | zero => rfl
    | succ i => exact absurd (hfirst.before 0 i.succ_pos) hfree

theorem mem_distinctNames_iff {columns taken : List String} {name : String} (hfree : name ∉ taken)
    (hname : EndsInNoDigit name) :
    name ∈ distinctNames taken columns ↔ ∃ column ∈ columns, parameterName column = name := by
  induction columns generalizing taken with
  | nil => simp [distinctNames]
  | cons column rest ih =>
    have hown := firstFree_eq_iff hfree hname (parameterName column)
    rw [distinctNames, List.mem_cons, List.exists_mem_cons_iff, ← hown]
    by_cases h : firstFree taken (parameterName column) = name
    · exact iff_of_true (.inl h.symm) (.inl h)
    · rw [ih (by simp [hfree, Ne.symm h])]
      simp [h, Ne.symm h]

/-! ### What the names are -/

/-- What the names of the parameters for columns are. -/
structure NamesFor (columns reserved names : List String) : Prop where
  length : names.length = columns.length
  distinct : names.Nodup
  unreserved : ∀ name ∈ names, name ∉ reserved
  distinctUnescaped : (names.map unescape).Nodup
  unreservedUnescaped : ∀ name ∈ names, unescape name ∉ reserved
  usable : ∀ name ∈ names, name ∉ keywords
  /-- The search of each column for a name that is neither reserved nor, before escaping, that of an
  earlier column ends, with the first free name. -/
  searched : ∀ i column, columns[i]? = some column →
    ∃ k ≤ reserved.length + i,
      FirstFree (reserved ++ (names.take i).map unescape) (parameterName column) k ∧
        (∀ found, Search (reserved ++ (names.take i).map unescape) (parameterName column)
          (parameterName column) 1 found ↔ found = attempt (parameterName column) k) ∧
        names[i]? = some (escape (attempt (parameterName column) k))

/-- **The names of parameters.** Each column gets the first of the names it tries that is neither
reserved nor that of an earlier column, and the names differ from each other and from the reserved
ones, escaped or not. -/
theorem parameterNames_first (columns reserved : List String)
    (hplain : ∀ name ∈ reserved, name.toList.head? ≠ some '@') :
    NamesFor columns reserved (parameterNames columns reserved) := by
  have hunescaped := map_unescape_parameterNames columns reserved
  refine
    { length := length_parameterNames columns reserved
      distinct := parameterNames_nodup columns reserved
      unreserved := parameterNames_not_reserved columns reserved hplain
      distinctUnescaped := hunescaped ▸ distinctNames_nodup columns reserved
      unreservedUnescaped := fun name hname => ?_
      usable := fun name hname => ?_
      searched := fun i column hcolumn => ?_ }
  · have hmem : unescape name ∈ distinctNames reserved columns :=
      hunescaped ▸ List.mem_map_of_mem hname
    exact distinctNames_not_mem columns reserved _ hmem
  · obtain ⟨plain, _, rfl⟩ := List.mem_map.mp hname
    exact escape_not_keyword plain
  · have hearlier : ((parameterNames columns reserved).take i).map unescape =
        (distinctNames reserved columns).take i := by rw [List.map_take, hunescaped]
    rw [hearlier]
    obtain ⟨k, hk, hname, hfirst⟩ := firstFree_eq_attempt
      (reserved ++ (distinctNames reserved columns).take i) (parameterName column)
    refine ⟨k, ?_, hfirst, hfirst.search_iff, ?_⟩
    · rw [List.length_append, List.length_take] at hk
      omega
    · rw [parameterNames, List.getElem?_map, getElem?_distinctNames _ _ _ _ hcolumn, hname]
      rfl

/-- Columns whose names repeat, are reserved, are reserved words, or are names with a number. -/
def crowdedColumns : List String :=
  ["from 1", "From", "from", "class", "Class", "example tags", "2"]

theorem parameterNames_first_crowded :
    (∀ name ∈ ["browserConfiguration", "exampleTags"], name.toList.head? ≠ some '@') ∧
      NamesFor crowdedColumns ["browserConfiguration", "exampleTags"]
        (parameterNames crowdedColumns ["browserConfiguration", "exampleTags"]) :=
  ⟨by decide, parameterNames_first crowdedColumns _ (by decide)⟩

example : parameterNames ["from 1", "From", "from", "class", "Class", "tags"] ["tags"] =
    ["from1", "from", "from2", "@class", "class1", "tags1"] := by decide +kernel

end CrossBrowser.Naming
