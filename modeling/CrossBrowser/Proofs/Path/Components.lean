import CrossBrowser.Proofs.Path.Parts

/-! What the operations on paths do to their components.

A path that ends in a component other than the top has the path to the components before it for its
parent (`parent?_of_components`), joining puts components one after the other (`components_join`), and
taking a base away leaves the components after it (`stripPrefix?_of_components`). Names that stand
between slashes and mean nothing else are proper: they are what the components of a path are made
of. -/
namespace CrossBrowser.Path

/-- The component that an absolute path begins with. -/
def start (absolute : Bool) : List Component := if absolute then [.top] else []

theorem components_eq (p : Path) :
    p.components = start p.isAbsolute ++ componentsOf (!p.isAbsolute) p.parts := by
  unfold components
  cases p.isAbsolute <;> rfl

/-! ### Absolute and relative texts -/

theorem isAbsolute_iff (p : Path) : p.isAbsolute = true ↔ ∃ x, p.text = "/" ++ x := by
  unfold isAbsolute
  rw [beq_iff_eq]
  constructor
  · intro h
    obtain ⟨rest, hrest⟩ := List.head?_eq_some_iff.mp h
    refine ⟨String.ofList rest, String.toList_inj.mp ?_⟩
    simp [hrest, String.toList_append]
  · rintro ⟨x, hx⟩
    rw [hx, String.toList_append]
    rfl

theorem partsOf_slash (x : String) : partsOf ("/" ++ x) = "" :: partsOf x :=
  partsOf_append_slash "" x

theorem parts_of_absolute (x : String) : (⟨"/" ++ x⟩ : Path).parts = partsOf x := by
  have habs : (⟨"/" ++ x⟩ : Path).isAbsolute = true := (isAbsolute_iff _).mpr ⟨x, rfl⟩
  rw [parts, if_pos habs]
  show (partsOf ("/" ++ x)).drop 1 = partsOf x
  rw [partsOf_slash]
  rfl

theorem parts_of_relative (p : Path) (h : p.isAbsolute = false) : p.parts = partsOf p.text := by
  rw [parts, if_neg (Bool.eq_false_iff.mp h)]
  rfl

theorem parts_ne_nil (p : Path) : p.parts ≠ [] := by
  cases habs : p.isAbsolute with
  | true =>
    obtain ⟨x, hx⟩ := (isAbsolute_iff p).mp habs
    obtain rfl : p = ⟨"/" ++ x⟩ := congrArg Path.mk hx
    rw [parts_of_absolute]
    exact partsOf_ne_nil x
  | false =>
    rw [parts_of_relative p habs]
    exact partsOf_ne_nil p.text

theorem slash_not_mem_parts (p : Path) (part : String) (h : part ∈ p.parts) :
    '/' ∉ part.toList := by
  unfold parts at h
  split at h
  · exact slash_not_mem p.text part (List.mem_of_mem_drop h)
  · exact slash_not_mem p.text part h

theorem mem_text_of_mem_parts (p : Path) (part : String) (h : part ∈ p.parts) :
    ∀ c ∈ part.toList, c ∈ p.text.toList := by
  unfold parts at h
  split at h
  · exact mem_of_mem_partsOf p.text part (List.mem_of_mem_drop h)
  · exact mem_of_mem_partsOf p.text part h

/-- Of the relative paths only the empty one begins with an empty part. -/
theorem parts_head (p : Path) (hrel : p.isAbsolute = false) (h : p.parts.head? = some "") :
    p.parts = [""] := by
  rw [parts_of_relative p hrel] at h ⊢
  unfold isAbsolute at hrel
  unfold partsOf at h ⊢
  cases htext : p.text.toList with
  | nil => rfl
  | cons c rest =>
    rw [htext] at hrel h
    have hc : (c == '/') = false := hrel
    obtain ⟨first, others, hsplit⟩ := List.exists_cons_of_ne_nil (List.splitOn_ne_nil '/' rest)
    rw [List.splitOn_cons_eq_if_modifyHead, if_neg (Bool.eq_false_iff.mp hc), hsplit] at h
    have hfirst := congrArg String.toList (Option.some.inj h)
    rw [String.toList_ofList] at hfirst
    cases hfirst

/-! ### Paths put together from parts -/

theorem ofReversedParts_spec (absolute : Bool) (rs : List String)
    (hslash : ∀ part ∈ rs, '/' ∉ part.toList)
    (hrel : absolute = false → rs.getLast? ≠ some "") :
    (ofReversedParts absolute rs).isAbsolute = absolute ∧
      (ofReversedParts absolute rs).components =
        start absolute ++ componentsOf (!absolute) rs.reverse := by
  have hslash' : ∀ part ∈ rs.reverse, '/' ∉ part.toList :=
    fun part hpart => hslash part (List.mem_reverse.mp hpart)
  cases absolute with
  | true =>
    have habs : (ofReversedParts true rs).isAbsolute = true :=
      (isAbsolute_iff _).mpr ⟨"/".intercalate rs.reverse, rfl⟩
    refine ⟨habs, ?_⟩
    rw [components_eq, habs]
    have hparts : (ofReversedParts true rs).parts = partsOf ("/".intercalate rs.reverse) :=
      parts_of_absolute _
    rw [hparts]
    by_cases hne : rs.reverse = []
    · rw [hne]
      rfl
    · rw [partsOf_intercalate _ hne hslash']
  | false =>
    have htext : (ofReversedParts false rs).text = "/".intercalate rs.reverse := by
      show "" ++ "/".intercalate rs.reverse = _
      rw [String.empty_append]
    by_cases hne : rs.reverse = []
    · rw [List.reverse_eq_nil_iff.mp hne]
      exact ⟨rfl, rfl⟩
    · have hparts := partsOf_intercalate _ hne hslash'
      have hfalse : (ofReversedParts false rs).isAbsolute = false := by
        refine Bool.eq_false_iff.mpr fun habs => hrel rfl ?_
        obtain ⟨x, hx⟩ := (isAbsolute_iff _).mp habs
        rw [← htext, hx, partsOf_slash] at hparts
        rw [List.getLast?_eq_head?_reverse, ← hparts]
        rfl
      refine ⟨hfalse, ?_⟩
      rw [components_eq, hfalse, parts_of_relative _ hfalse, htext, hparts]

/-- What is left of the parts of a path when silent ones have been dropped begins as the path
does. -/
theorem getLast?_dropSilentEnd (p : Path) (hrel : p.isAbsolute = false) (rs : List String)
    (h : rs <:+ p.parts.reverse) : (dropSilentEnd true rs).getLast? ≠ some "" := by
  intro hlast
  have hsuffix := (dropSilentEnd_suffix true rs).trans h
  obtain ⟨before, hbefore⟩ := hsuffix
  have hne : dropSilentEnd true rs ≠ [] := by
    intro hnil
    rw [hnil] at hlast
    cases hlast
  have hhead : p.parts.head? = some "" := by
    rw [← List.getLast?_reverse, ← hbefore, List.getLast?_append, hlast]
    rfl
  rw [parts_head p hrel hhead, List.reverse_singleton] at hbefore
  have hparts : dropSilentEnd true rs = [""] := by
    rcases List.append_eq_singleton_iff.mp hbefore with ⟨_, h⟩ | ⟨_, h⟩
    · exact h
    · exact absurd h hne
  have := dropSilentEnd_said true rs "" [] hparts
  cases this

/-! ### Parent and file name -/

theorem components_of_reversedParts (p : Path) :
    p.components = start p.isAbsolute ++ componentsOf (!p.isAbsolute) p.reversedParts.reverse := by
  rw [components_eq, reversedParts, componentsOf_dropSilentEnd, List.reverse_reverse]

theorem reversedParts_of_components (p : Path) (C : List Component) (c : Component)
    (h : p.components = C ++ [c]) (hc : c ≠ .top) :
    ∃ part before, p.reversedParts = part :: before ∧ c = .said part ∧
      C = start p.isAbsolute ++ componentsOf (!p.isAbsolute) before.reverse := by
  rw [components_of_reversedParts] at h
  cases hparts : p.reversedParts with
  | nil =>
    rw [hparts] at h
    refine absurd ?_ hc
    cases habs : p.isAbsolute with
    | true =>
      rw [habs] at h
      have htop : [] ++ [Component.top] = C ++ [c] := h
      exact (List.singleton_inj.mp (List.append_inj' htop rfl).2).symm
    | false =>
      rw [habs] at h
      have hlen := congrArg List.length h
      simp [start, componentsOf] at hlen
  | cons part before =>
    refine ⟨part, before, rfl, ?_⟩
    have hsaid := dropSilentEnd_said _ _ _ _ hparts
    rw [hparts, List.reverse_cons, componentsOf_concat, List.isEmpty_reverse,
      ofPart?_of_said _ _ hsaid, Option.toList_some, ← List.append_assoc] at h
    obtain ⟨hC, hlast⟩ := List.append_inj' h rfl
    exact ⟨(List.singleton_inj.mp hlast).symm, hC.symm⟩

/-- The parts of a path from the last to the first, as far as some of them have been taken, make a
path of the kind of the first. -/
theorem ofReversedParts_of_suffix (p : Path) (rs : List String) (h : rs <:+ p.parts.reverse) :
    (ofReversedParts p.isAbsolute (dropSilentEnd (!p.isAbsolute) rs)).components =
      start p.isAbsolute ++ componentsOf (!p.isAbsolute) rs.reverse := by
  rw [(ofReversedParts_spec _ _ ?_ ?_).2, componentsOf_dropSilentEnd]
  · intro part hpart
    have hmem := h.subset ((dropSilentEnd_suffix _ rs).subset hpart)
    exact slash_not_mem_parts p part (List.mem_reverse.mp hmem)
  · intro hrel
    rw [hrel]
    exact getLast?_dropSilentEnd p hrel rs h

/-- The parent of a path is the path to the components before the last one. -/
theorem parent?_of_components (p : Path) (C : List Component) (c : Component)
    (h : p.components = C ++ [c]) (hc : c ≠ .top) :
    ∃ q, p.parent? = some q ∧ q.components = C := by
  obtain ⟨part, before, hparts, _, hC⟩ := reversedParts_of_components p C c h hc
  have hsuffix : before <:+ p.parts.reverse := by
    have hdrop := dropSilentEnd_suffix (!p.isAbsolute) p.parts.reverse
    rw [← reversedParts, hparts] at hdrop
    exact (List.suffix_cons part before).trans hdrop
  refine ⟨ofReversedParts p.isAbsolute (dropSilentEnd (!p.isAbsolute) before), ?_, ?_⟩
  · rw [parent?, hparts]
  · rw [ofReversedParts_of_suffix p before hsuffix, hC]

/-- A part says a name exactly if it is that name, and not one or two dots. -/
theorem said_eq_name_iff (part name : String) :
    Component.said part = .name name ↔ part = name ∧ part ≠ "." ∧ part ≠ ".." := by
  unfold Component.said
  by_cases hdot : part = "."
  · simp [hdot]
  · rw [if_neg hdot]
    by_cases hdots : part = ".."
    · simp [hdots]
    · rw [if_neg hdots, Component.name.injEq]
      exact ⟨fun h => ⟨h, hdot, hdots⟩, fun h => h.1⟩

theorem fileName?_of_components (p : Path) (C : List Component) (n : String)
    (h : p.components = C ++ [.name n]) : p.fileName? = some n := by
  obtain ⟨part, before, hparts, hsaid, _⟩ :=
    reversedParts_of_components p C (.name n) h (fun he => by cases he)
  obtain ⟨rfl, hdot, hdots⟩ := (said_eq_name_iff part n).mp hsaid.symm
  rw [fileName?, hparts]
  exact if_neg (not_or.mpr ⟨hdot, hdots⟩)

/-- A file name is the last component. -/
theorem components_of_fileName? (p : Path) (n : String) (h : p.fileName? = some n) :
    ∃ C, p.components = C ++ [.name n] := by
  unfold fileName? at h
  cases hparts : p.reversedParts with
  | nil =>
    rw [hparts] at h
    cases h
  | cons part before =>
    rw [hparts] at h
    simp only [] at h
    split at h
    · cases h
    · next hdots =>
      obtain rfl := Option.some.inj h
      have hsaid := dropSilentEnd_said _ _ _ _ hparts
      have hname : Component.said part = .name part :=
        (said_eq_name_iff part part).mpr ⟨rfl, not_or.mp hdots⟩
      rw [components_of_reversedParts, hparts, List.reverse_cons, componentsOf_concat,
        List.isEmpty_reverse, ofPart?_of_said _ _ hsaid, Option.toList_some, hname,
        ← List.append_assoc]
      exact ⟨_, rfl⟩

/-! ### Proper names -/

/-- A name that stands for itself where it stands between slashes. -/
structure ProperName (name : String) : Prop where
  ne_empty : name ≠ ""
  ne_here : name ≠ "."
  ne_up : name ≠ ".."
  no_slash : '/' ∉ name.toList

instance (name : String) : Decidable (ProperName name) :=
  decidable_of_iff (name ≠ "" ∧ name ≠ "." ∧ name ≠ ".." ∧ '/' ∉ name.toList)
    ⟨fun ⟨h₁, h₂, h₃, h₄⟩ => ⟨h₁, h₂, h₃, h₄⟩,
      fun h => ⟨h.ne_empty, h.ne_here, h.ne_up, h.no_slash⟩⟩

theorem ofPart?_properName (begins : Bool) (name : String) (h : ProperName name) :
    Component.ofPart? begins name = some (.name name) := by
  have hsilent : isSilent begins name = false := by
    simp [isSilent, h.ne_empty, h.ne_here]
  rw [ofPart?_of_said _ _ hsilent, (said_eq_name_iff name name).mpr ⟨rfl, h.ne_here, h.ne_up⟩]

theorem componentsOf_names (relative : Bool) (names : List String)
    (h : ∀ name ∈ names, ProperName name) :
    componentsOf relative names = names.map .name := by
  induction names generalizing relative with
  | nil => rfl
  | cons name rest ih =>
    have hrest := ih false fun n hn => h n (List.mem_cons_of_mem name hn)
    rw [componentsOf_false] at hrest
    rw [componentsOf, ofPart?_properName _ _ (h name List.mem_cons_self), hrest]
    rfl

/-- A name that a part stands for is proper. -/
theorem properName_of_part (begins : Bool) (part name : String) (hslash : '/' ∉ part.toList)
    (h : .name name ∈ (Component.ofPart? begins part).toList) : ProperName name := by
  cases hsilent : isSilent begins part with
  | true =>
    rw [ofPart?_of_silent _ _ hsilent] at h
    cases h
  | false =>
    rw [ofPart?_of_said _ _ hsilent, Option.toList_some, List.mem_singleton] at h
    obtain ⟨rfl, hdot, hdots⟩ := (said_eq_name_iff part name).mp h.symm
    refine ⟨?_, hdot, hdots, hslash⟩
    rintro rfl
    cases hsilent

/-- The names in the components of a path are proper. -/
theorem properName_of_mem (p : Path) (name : String) (h : .name name ∈ p.components) :
    ProperName name := by
  rw [components_eq] at h
  rcases List.mem_append.mp h with h | h
  · unfold start at h
    split at h
    · cases List.mem_singleton.mp h
    · cases h
  · have hslash := slash_not_mem_parts p
    cases hparts : p.parts with
    | nil =>
      rw [hparts] at h
      cases h
    | cons part rest =>
      rw [hparts] at h hslash
      rcases List.mem_append.mp h with h | h
      · exact properName_of_part _ part name (hslash part List.mem_cons_self) h
      · obtain ⟨part', hmem, he⟩ := List.mem_filterMap.mp h
        refine properName_of_part false part' name (hslash part' (List.mem_cons_of_mem part hmem)) ?_
        rw [he]
        exact List.mem_cons_self

/-- The path made of proper names has these components. -/
theorem ofNames_spec (names : List String) (h : ∀ name ∈ names, ProperName name) :
    (⟨"/".intercalate names⟩ : Path).isAbsolute = false ∧
      (⟨"/".intercalate names⟩ : Path).components = names.map .name := by
  have hpath : (⟨"/".intercalate names⟩ : Path) = ofReversedParts false names.reverse := by
    unfold ofReversedParts
    rw [List.reverse_reverse, if_neg Bool.false_ne_true, String.empty_append]
  have hspec := ofReversedParts_spec false names.reverse
    (fun part hpart => (h part (List.mem_reverse.mp hpart)).no_slash)
    (fun _ hlast => (h "" (List.mem_reverse.mp (List.mem_of_getLast? hlast))).ne_empty rfl)
  rw [hpath, hspec.1, hspec.2, List.reverse_reverse, componentsOf_names _ _ h]
  exact ⟨rfl, rfl⟩

end CrossBrowser.Path
