import CrossBrowser.Proofs.Path.Components

/-! Joining paths, and taking a base away again.

Joining puts the components of two paths one after the other, whether or not the first of them ends
in a slash (`components_join`). Taking away a base that a path goes on from by names leaves the path
of these names (`stripPrefix?_of_components`). -/
namespace CrossBrowser.Path

/-! ### Joining -/

theorem isAbsolute_append (s x : String) (h : s ≠ "") :
    (⟨s ++ x⟩ : Path).isAbsolute = (⟨s⟩ : Path).isAbsolute := by
  unfold isAbsolute
  simp only [String.toList_append]
  cases hs : s.toList with
  | nil => exact absurd (String.toList_eq_nil_iff.mp hs) h
  | cons c rest => rfl

theorem parts_append_slash (s x : String) (h : s ≠ "") :
    (⟨s ++ "/" ++ x⟩ : Path).parts = (⟨s⟩ : Path).parts ++ partsOf x := by
  have hs : (⟨s⟩ : Path).parts =
      if (⟨s⟩ : Path).isAbsolute then (partsOf s).drop 1 else partsOf s := rfl
  have hx : (⟨s ++ "/" ++ x⟩ : Path).parts =
      if (⟨s ++ "/" ++ x⟩ : Path).isAbsolute then (partsOf (s ++ "/" ++ x)).drop 1
      else partsOf (s ++ "/" ++ x) := rfl
  rw [hx, hs, partsOf_append_slash, String.append_assoc, isAbsolute_append _ _ h]
  split
  · exact List.drop_append_of_le_length (List.length_pos_iff.mpr (partsOf_ne_nil s))
  · rfl

/-- A slash at the end says nothing, unless there is nothing before it. -/
theorem components_trailing_slash (s : String) (h : s ≠ "") :
    (⟨s ++ "/"⟩ : Path).components = (⟨s⟩ : Path).components := by
  have hparts := parts_append_slash s "" h
  have hempty : partsOf "" = [""] := rfl
  rw [String.append_empty, hempty] at hparts
  have hsilent : ∀ begins, (Component.ofPart? begins "").toList = [] := fun _ => rfl
  rw [components_eq, components_eq, isAbsolute_append s "/" h, hparts, componentsOf_concat, hsilent,
    List.append_nil]

/-- What follows a slash says its components after those before the slash. -/
theorem components_append_slash (s x : String) :
    (⟨s ++ "/" ++ x⟩ : Path).components =
      (⟨s ++ "/"⟩ : Path).components ++ componentsOf false (partsOf x) := by
  by_cases h : s = ""
  · have habs : (⟨"/" ++ x⟩ : Path).isAbsolute = true := (isAbsolute_iff _).mpr ⟨x, rfl⟩
    rw [h, String.empty_append, components_eq, habs, parts_of_absolute]
    rfl
  · rw [components_trailing_slash s h, components_eq, components_eq, parts_append_slash s x h,
      String.append_assoc, isAbsolute_append s _ h, componentsOf_append _ _ _ (parts_ne_nil ⟨s⟩),
      List.append_assoc]

/-- The components of a relative path that does not begin with a dot are the same after others. -/
theorem components_of_relative (q : Path) (hrel : q.isAbsolute = false)
    (hhere : q.components.head? ≠ some .here) :
    q.components = componentsOf false (partsOf q.text) := by
  have hq : q.components = componentsOf true (partsOf q.text) := by
    rw [components_eq, hrel, parts_of_relative q hrel]
    rfl
  rw [hq] at hhere ⊢
  refine componentsOf_true _ fun hdot => hhere ?_
  obtain ⟨rest, hrest⟩ := List.head?_eq_some_iff.mp hdot
  rw [hrest]
  rfl

theorem components_join (p q : Path) (hrel : q.isAbsolute = false)
    (hhere : q.components.head? ≠ some .here) :
    (p.join q).components = p.components ++ q.components := by
  rw [join, if_neg (Bool.eq_false_iff.mp hrel)]
  by_cases hempty : p.text = ""
  · rw [if_pos (.inl hempty), hempty, String.empty_append]
    have hp : p.components = [] := by
      cases p
      simp only at hempty
      subst hempty
      rfl
    rw [hp, List.nil_append]
  · have hq := components_of_relative q hrel hhere
    by_cases hslash : p.text.toList.getLast? = some '/'
    · obtain ⟨cs, hcs⟩ := List.getLast?_eq_some_iff.mp hslash
      have htext : p.text = String.ofList cs ++ "/" := by
        rw [← String.toList_inj, hcs, String.toList_append, String.toList_ofList]
        rfl
      rw [if_pos (.inr hslash), htext, components_append_slash, ← htext, hq]
    · rw [if_neg (not_or.mpr ⟨hempty, hslash⟩), components_append_slash,
        components_trailing_slash _ hempty, hq]

theorem components_join_names (p : Path) (names : List String)
    (h : ∀ name ∈ names, ProperName name) :
    (p.join ⟨"/".intercalate names⟩).components = p.components ++ names.map .name := by
  obtain ⟨hrel, hnames⟩ := ofNames_spec names h
  rw [components_join p _ hrel, hnames]
  rw [hnames]
  cases names <;> simp

theorem components_join_name (p : Path) (name : String) (h : ProperName name) :
    (p.join ⟨name⟩).components = p.components ++ [.name name] := by
  have hjoin := components_join_names p [name] fun n hn => List.mem_singleton.mp hn ▸ h
  rwa [String.intercalate_singleton] at hjoin

theorem components_withFileName (p : Path) (C : List Component) (n name : String)
    (h : p.components = C ++ [.name n]) (hname : ProperName name) :
    (p.withFileName name).components = C ++ [.name name] := by
  obtain ⟨q, hparent, hq⟩ := parent?_of_components p C _ h (fun he => by cases he)
  rw [withFileName, fileName?_of_components p C n h, hparent]
  show (q.join ⟨name⟩).components = _
  rw [components_join_name q name hname, hq]

/-! ### Parts -/

/-- Joining puts parts one after the other, in place of the empty part that a slash at the end
makes. -/
theorem parts_join (p q : Path) (hp : p.text ≠ "") (hrel : q.isAbsolute = false) :
    ∃ before, (p.parts = before ∨ p.parts = before ++ [""]) ∧
      (p.join q).parts = before ++ partsOf q.text := by
  rw [join, if_neg (Bool.eq_false_iff.mp hrel)]
  by_cases hslash : p.text.toList.getLast? = some '/'
  · obtain ⟨cs, hcs⟩ := List.getLast?_eq_some_iff.mp hslash
    obtain ⟨s, hs⟩ : ∃ s, p = ⟨s ++ "/"⟩ := by
      refine ⟨String.ofList cs, congrArg Path.mk ?_⟩
      rw [← String.toList_inj, hcs, String.toList_append, String.toList_ofList]
      rfl
    rw [if_pos (.inr hslash), hs]
    by_cases hempty : s = ""
    · rw [hempty]
      exact ⟨[], .inr rfl, parts_of_absolute q.text⟩
    · refine ⟨(⟨s⟩ : Path).parts, .inr ?_, parts_append_slash s q.text hempty⟩
      have hparts := parts_append_slash s "" hempty
      rwa [String.append_empty] at hparts
  · rw [if_neg (not_or.mpr ⟨hp, hslash⟩)]
    exact ⟨p.parts, .inl rfl, parts_append_slash p.text q.text hp⟩

theorem isAbsolute_join (p q : Path) (hp : p.text ≠ "") (hrel : q.isAbsolute = false) :
    (p.join q).isAbsolute = p.isAbsolute := by
  rw [join, if_neg (Bool.eq_false_iff.mp hrel)]
  split
  · exact isAbsolute_append p.text q.text hp
  · rw [String.append_assoc]
    exact isAbsolute_append p.text _ hp

theorem text_join (p q : Path) (hrel : q.isAbsolute = false) :
    ∃ slash, (slash = "" ∨ slash = "/") ∧ (p.join q).text = p.text ++ (slash ++ q.text) := by
  rw [join, if_neg (Bool.eq_false_iff.mp hrel)]
  split
  · exact ⟨"", .inl rfl, by rw [String.empty_append]⟩
  · exact ⟨"/", .inr rfl, String.append_assoc⟩

/-! ### Taking a base away -/

theorem componentsOf_dropComponents (count : Nat) (parts : List String) :
    componentsOf false (dropComponents false count parts) =
      (componentsOf false parts).drop count := by
  induction parts generalizing count with
  | nil =>
    rw [dropComponents]
    exact List.drop_nil.symm
  | cons part rest ih =>
    have hrest : componentsOf false (part :: rest) =
        (Component.ofPart? false part).toList ++ componentsOf false rest := by
      rw [componentsOf, componentsOf_false]
    rw [hrest]
    cases count with
    | zero =>
      rw [dropComponents]
      split
      · next h => rw [ih, ofPart?_of_silent _ _ h, Option.toList_none, List.nil_append]
      · rw [hrest, List.drop_zero]
    | succ count =>
      rw [dropComponents]
      split
      · next h => rw [ih, ofPart?_of_silent _ _ h, Option.toList_none, List.nil_append]
      · next h =>
        rw [ih, ofPart?_of_said _ _ (Bool.eq_false_iff.mpr h), Option.toList_some]
        rfl

/-- The first component taken away may be the dot that begins a relative path. -/
theorem componentsOf_dropComponents_relative (count : Nat) (parts : List String) :
    componentsOf false (dropComponents true (count + 1) parts) =
      (componentsOf true parts).drop (count + 1) := by
  cases parts with
  | nil => rfl
  | cons part rest =>
    rw [dropComponents, componentsOf, ← componentsOf_false]
    split
    · next h =>
      rw [componentsOf_dropComponents, ofPart?_of_silent _ _ h, Option.toList_none, List.nil_append]
    · next h =>
      rw [componentsOf_dropComponents, ofPart?_of_said _ _ (Bool.eq_false_iff.mpr h),
        Option.toList_some]
      rfl

/-- What is left begins with a part that says something. -/
theorem dropComponents_head (count : Nat) (parts : List String) (part : String)
    (h : (dropComponents false count parts).head? = some part) : isSilent false part = false := by
  induction parts generalizing count with
  | nil => cases h
  | cons p rest ih =>
    cases count with
    | zero =>
      rw [dropComponents] at h
      split at h
      · exact ih 0 h
      · next hp =>
        obtain rfl := Option.some.inj h
        exact Bool.eq_false_iff.mpr hp
    | succ count =>
      rw [dropComponents] at h
      split at h
      · exact ih (count + 1) h
      · exact ih count h

theorem dropComponents_head_relative (count : Nat) (parts : List String) (part : String)
    (h : (dropComponents true (count + 1) parts).head? = some part) :
    isSilent false part = false := by
  cases parts with
  | nil => cases h
  | cons p rest =>
    rw [dropComponents] at h
    split at h
    · exact dropComponents_head (count + 1) rest part h
    · exact dropComponents_head count rest part h

theorem dropComponents_suffix (relative : Bool) (count : Nat) (parts : List String) :
    dropComponents relative count parts <:+ parts := by
  induction parts generalizing relative count with
  | nil => exact List.suffix_rfl
  | cons part rest ih =>
    cases count with
    | zero =>
      rw [dropComponents]
      split
      · exact (ih false 0).trans (List.suffix_cons part rest)
      · exact List.suffix_rfl
    | succ count =>
      rw [dropComponents]
      split
      · exact (ih false (count + 1)).trans (List.suffix_cons part rest)
      · exact (ih false count).trans (List.suffix_cons part rest)

/-- Parts that begin with one that says something make a relative path of what they say. -/
theorem ofReversedParts_of_head (rest : List String) (hslash : ∀ part ∈ rest, '/' ∉ part.toList)
    (hhead : ∀ part, rest.head? = some part → isSilent false part = false) :
    (ofReversedParts false (dropSilentEnd false rest.reverse)).isAbsolute = false ∧
      (ofReversedParts false (dropSilentEnd false rest.reverse)).components =
        componentsOf false rest := by
  obtain ⟨dropped, hdropped⟩ := dropSilentEnd_suffix false rest.reverse
  have hprefix : (dropSilentEnd false rest.reverse).reverse ++ dropped.reverse = rest := by
    rw [← List.reverse_append, hdropped, List.reverse_reverse]
  -- The first part is kept if any is.
  have hfirst : ∀ part, (dropSilentEnd false rest.reverse).reverse.head? = some part →
      isSilent false part = false := by
    intro part hpart
    refine hhead part ?_
    rw [← hprefix, List.head?_append, hpart]
    rfl
  obtain ⟨hrel, hcomponents⟩ := ofReversedParts_spec false (dropSilentEnd false rest.reverse)
    (fun part hpart => hslash part
      (List.mem_reverse.mp ((dropSilentEnd_suffix false rest.reverse).subset hpart)))
    (fun _ hlast => by
      rw [List.getLast?_eq_head?_reverse] at hlast
      cases hfirst "" hlast)
  refine ⟨hrel, ?_⟩
  have hdot : (dropSilentEnd false rest.reverse).reverse.head? ≠ some "." :=
    fun hhere => by cases hfirst "." hhere
  rw [hcomponents, Bool.not_false, componentsOf_true _ hdot, componentsOf_dropSilentEnd,
    List.reverse_reverse]
  rfl

theorem isAbsolute_of_names (p : Path) (names : List String)
    (h : p.components = names.map .name) : p.isAbsolute = false := by
  refine Bool.eq_false_iff.mpr fun habs => ?_
  rw [components_eq, habs] at h
  cases names with
  | nil => cases h
  | cons name rest => cases h

/-- A base that a path goes on from by names can be taken away, and leaves the path of these
names. -/
theorem stripPrefix?_of_components (p base : Path) (names : List String)
    (h : p.components = base.components ++ names.map .name) :
    ∃ q, p.stripPrefix? base = some q ∧ q.isAbsolute = false ∧ q.components = names.map .name := by
  have htaken : p.components.take base.components.length = base.components := by
    rw [h, List.take_left']
    rfl
  unfold stripPrefix?
  simp only [htaken, ne_eq, not_true_eq_false, if_false]
  cases hbase : base.components with
  | nil =>
    rw [hbase, List.nil_append] at h
    have hcomponents : (ofReversedParts p.isAbsolute p.reversedParts).components =
        names.map .name := by
      rw [reversedParts, ofReversedParts_of_suffix p _ List.suffix_rfl, ← h, components_eq,
        List.reverse_reverse]
    refine ⟨_, if_pos rfl, ?_, hcomponents⟩
    exact isAbsolute_of_names _ names hcomponents
  | cons c rest =>
    refine ⟨_, if_neg (Nat.succ_ne_zero _), ?_⟩
    have hparts := slash_not_mem_parts p
    rw [hbase, components_eq] at h
    cases habs : p.isAbsolute with
    | true =>
      rw [habs] at h
      have hrest : componentsOf false (dropComponents false rest.length p.parts) =
          names.map .name := by
        have htail : componentsOf false p.parts = rest ++ names.map .name :=
          (List.cons.inj h).2
        rw [componentsOf_dropComponents, htail, List.drop_left']
        rfl
      have hspec := ofReversedParts_of_head (dropComponents false rest.length p.parts)
        (fun part hpart => hparts part ((dropComponents_suffix _ _ _).subset hpart))
        (dropComponents_head rest.length p.parts)
      rw [hrest] at hspec
      exact hspec
    | false =>
      rw [habs] at h
      have hrest : componentsOf false (dropComponents true (rest.length + 1) p.parts) =
          names.map .name := by
        have hall : componentsOf true p.parts = (c :: rest) ++ names.map .name := h
        rw [componentsOf_dropComponents_relative, hall, List.drop_left']
        rfl
      have hspec := ofReversedParts_of_head (dropComponents true (rest.length + 1) p.parts)
        (fun part hpart => hparts part ((dropComponents_suffix _ _ _).subset hpart))
        (dropComponents_head_relative rest.length p.parts)
      rw [hrest] at hspec
      exact hspec

end CrossBrowser.Path
