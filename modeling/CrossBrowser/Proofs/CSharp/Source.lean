import CrossBrowser.CSharp.Source
import CrossBrowser.Proofs.CSharp.Attribute
import CrossBrowser.Proofs.CSharp.Layout

/-! What can be told from the parts of a source text.

Each part is told up to where it ends: the description and the categories above a class or method,
then the test cases, then the declaration of a method, and then its body. No category line begins
like the line of a test case, and neither begins like a declaration, so that the lists of lines end
where something else begins. -/
namespace CrossBrowser.CSharp
open Text

/-! ### Every part closes its blocks -/

theorem level_statementSteps (s : Statement) : Level (statementSteps s) := by
  cases s <;> exact fun _ => rfl

theorem level_body (xs : List Statement) : Level (xs.flatMap statementSteps) :=
  level_flatMap level_statementSteps xs

theorem methodSteps_eq (name : String) (ps : List Parameter) (xs : List Statement) :
    methodSteps name ps xs =
      .line ("public virtual void " ++ name ++ "(" ++ parameterList ps ++ ")") ::
        .openBlock :: (xs.flatMap statementSteps ++ [.closeBlock]) := rfl

theorem level_methodSteps (name : String) (ps : List Parameter) (xs : List Statement) :
    Level (methodSteps name ps xs) :=
  (level_body xs).block

theorem level_memberSteps (m : Member) : Level (memberSteps m) :=
  (level_lines markerAttribute m.markers).append (level_methodSteps _ _ _)

theorem level_descriptionSteps (markers : List Marker) (description : Option String)
    (categories : List String) : Level (descriptionSteps markers description categories) := by
  refine ((level_lines _ _).append ?_).append (level_lines _ _)
  cases description <;> exact fun _ => rfl

theorem level_testMethodSteps (m : TestMethod) : Level (testMethodSteps m) :=
  ((level_descriptionSteps _ _ _).append (level_lines _ _)).append (level_methodSteps _ _ _)

/-! ### Lines of attributes -/

/-- A line that begins with a word is not one with an attribute. -/
theorem foreign_word {α : Type} (name : String) (arguments : α → String) (d : Nat)
    {other : String} (hother : other.toList.head? = some 'p') (r : List Char) :
    Foreign (fun a => (Layout.indented d (attributeText name (arguments a))).toList)
      ((Layout.indented d other).toList ++ r) := by
  have hne : other ≠ "" := by
    rintro rfl
    simp at hother
  refine foreign_indented (fun a t h => ?_) (fun a => attributeText_ne_empty _ _) hne d
  obtain ⟨rest, hrest⟩ := List.head?_eq_some_iff.mp hother
  simp only [hrest, attributeText_toList] at h
  simp at h

/-- The line of a test case is not that of a category. -/
theorem foreign_caseLine (d : Nat) (c : TestCase) (r : List Char) :
    Foreign (fun a => (Layout.indented d (categoryAttribute a)).toList)
      ((Layout.indented d (caseAttribute c)).toList ++ r) := by
  refine foreign_indented (fun a t h => ?_) (fun a => attributeText_ne_empty _ _)
    (attributeText_ne_empty _ _) d
  simp only [attributeText_toList, String.toList_append, List.append_assoc,
    List.append_cancel_left_eq] at h
  simp at h

theorem tells_categoryLine (d : Nat) :
    Tells (fun c => (Layout.indented d (categoryAttribute c)).toList) id :=
  tells_indented (tells_textAttribute _) (fun _ => attributeText_ne_empty _ _) d

theorem tells_descriptionLine (d : Nat) :
    Tells (fun t => (Layout.indented d (descriptionAttribute t)).toList) id :=
  tells_indented (tells_textAttribute _) (fun _ => attributeText_ne_empty _ _) d

theorem tells_caseLine (d : Nat) :
    Tells (fun c => (Layout.indented d (caseAttribute c)).toList) TestCase.written :=
  tells_indented tells_caseAttribute (fun _ => attributeText_ne_empty _ _) d

theorem laid_descriptionSteps (d : Nat) (markers : List Marker) (title : String)
    (categories : List String) :
    laid d (descriptionSteps markers (some title) categories) =
      laid d (markers.map (.line <| markerAttribute ·)) ++
        ((Layout.indented d (descriptionAttribute title)).toList ++
          categories.flatMap fun c => (Layout.indented d (categoryAttribute c)).toList) := by
  rw [descriptionSteps, List.append_assoc, (level_lines _ _).laid_append, ← laid_lines]
  rfl

/-- The description and the categories of a class or method, up to what is not a category. -/
theorem description_tells {d : Nat} {markers : List Marker} {title title' : String}
    {categories categories' : List String} {r s : List Char}
    (hr : Foreign (fun c => (Layout.indented d (categoryAttribute c)).toList) r)
    (hs : Foreign (fun c => (Layout.indented d (categoryAttribute c)).toList) s)
    (h : laid d (descriptionSteps markers (some title) categories) ++ r =
      laid d (descriptionSteps markers (some title') categories') ++ s) :
    title = title' ∧ categories = categories' ∧ r = s := by
  simp only [laid_descriptionSteps, List.append_assoc, List.append_cancel_left_eq] at h
  obtain ⟨htitle, h⟩ := tells_descriptionLine d h
  obtain ⟨hcategories, h⟩ := (tells_categoryLine d).flatMap hr hs h
  rw [List.map_id, List.map_id] at hcategories
  exact ⟨htitle, hcategories, h⟩

/-! ### Methods -/

theorem laid_methodSteps (d : Nat) (name : String) (ps : List Parameter) (xs : List Statement) :
    laid d (methodSteps name ps xs) =
      (Layout.indented d
        ("public virtual void " ++ name ++ "(" ++ parameterList ps ++ ")")).toList ++
        ((Layout.indented d "\x7b").toList ++
          (laid (d + 1) (xs.flatMap statementSteps) ++ (Layout.indented d "\x7d").toList)) := by
  rw [methodSteps_eq, laid_line, laid_block (level_body xs), laid, List.append_nil]

/-- The parameters of a method whose name is known, up to its body. -/
theorem methodSteps_tells {d : Nat} {name : String} {ps qs : List Parameter}
    {xs ys : List Statement} (hps : ∀ p ∈ ps, PlainParameter p) (hqs : ∀ q ∈ qs, PlainParameter q)
    {r s : List Char}
    (h : laid d (methodSteps name ps xs) ++ r = laid d (methodSteps name qs ys) ++ s) :
    ps = qs ∧
      laid (d + 1) (xs.flatMap statementSteps) ++ ((Layout.indented d "\x7d").toList ++ r) =
        laid (d + 1) (ys.flatMap statementSteps) ++ ((Layout.indented d "\x7d").toList ++ s) := by
  have hne : ∀ ps : List Parameter,
      "public virtual void " ++ name ++ "(" ++ parameterList ps ++ ")" ≠ "" := fun ps => by simp
  have hclose : ")".toList = [')'] := rfl
  simp only [laid_methodSteps, indented_toList d (hne _), String.toList_append, hclose,
    List.append_assoc, List.append_cancel_left_eq, List.singleton_append] at h
  obtain ⟨hparameters, h⟩ := parameterList_tells hps hqs h
  exact ⟨hparameters, List.append_cancel_left (List.cons.inj h).2⟩

/-- The declaration of a method is not a line with an attribute. -/
theorem foreign_methodSteps {α : Type} (label : String) (arguments : α → String) (d : Nat)
    (name : String) (ps : List Parameter) (xs : List Statement) (r : List Char) :
    Foreign (fun a => (Layout.indented d (attributeText label (arguments a))).toList)
      (laid d (methodSteps name ps xs) ++ r) := by
  rw [laid_methodSteps, List.append_assoc]
  exact foreign_word label arguments d (by simp [String.toList_append]) _

theorem laid_testMethodSteps (d : Nat) (m : TestMethod) :
    laid d (testMethodSteps m) =
      laid d (descriptionSteps m.markers m.description m.categories) ++
        (m.cases.flatMap (fun c => (Layout.indented d (caseAttribute c)).toList) ++
          laid d (methodSteps m.identifier m.parameters m.statements)) := by
  rw [testMethodSteps, List.append_assoc, (level_descriptionSteps _ _ _).laid_append,
    (level_lines _ _).laid_append, laid_lines]

/-- What follows the categories of a test method is none of them. -/
theorem foreign_afterCategories (d : Nat) (m : TestMethod) (r : List Char) :
    Foreign (fun c => (Layout.indented d (categoryAttribute c)).toList)
      (m.cases.flatMap (fun c => (Layout.indented d (caseAttribute c)).toList) ++
        (laid d (methodSteps m.identifier m.parameters m.statements) ++ r)) := by
  cases m.cases with
  | nil => exact foreign_methodSteps _ _ d _ _ _ r
  | cons c rest =>
    rw [List.flatMap_cons, List.append_assoc]
    exact foreign_caseLine d c _

/-! ### Classes -/

/-- The members of a class and its tests, with an empty line before each. -/
def blockSteps (c : TestClass) : List LayoutStep :=
  c.fields.map (fun f => .line ("private " ++ f.type ++ " " ++ f.name ++ ";")) ++
    (memberList c).flatMap (fun m => .blank :: memberSteps m) ++
    c.methods.flatMap (fun m => .blank :: testMethodSteps m)

theorem level_blank {xs : List LayoutStep} (h : Level xs) : Level (.blank :: xs) := h

theorem level_blockSteps (c : TestClass) : Level (blockSteps c) :=
  ((level_lines _ _).append (level_flatMap (fun m => level_blank (level_memberSteps m)) _)).append
    (level_flatMap (fun m => level_blank (level_testMethodSteps m)) _)

theorem classSteps_eq (c : TestClass) :
    classSteps c =
      descriptionSteps c.markers c.description c.categories ++
        .line ("public partial class " ++ c.name) :: .openBlock ::
          (blockSteps c ++ [.closeBlock]) := by
  simp only [classSteps, blockSteps, List.append_assoc, List.cons_append, List.nil_append]

theorem level_classSteps (c : TestClass) : Level (classSteps c) := by
  rw [classSteps_eq]
  exact (level_descriptionSteps _ _ _).append (level_blockSteps c).block

theorem laid_classSteps (d : Nat) (c : TestClass) :
    laid d (classSteps c) =
      laid d (descriptionSteps c.markers c.description c.categories) ++
        ((Layout.indented d ("public partial class " ++ c.name)).toList ++
          ((Layout.indented d "\x7b").toList ++
            (laid (d + 1) (blockSteps c) ++ (Layout.indented d "\x7d").toList))) := by
  rw [classSteps_eq, (level_descriptionSteps _ _ _).laid_append, laid_line,
    laid_block (level_blockSteps c), laid, List.append_nil]

theorem laid_blockSteps (d : Nat) (c : TestClass) :
    laid d (blockSteps c) =
      laid d (c.fields.map (fun f => .line ("private " ++ f.type ++ " " ++ f.name ++ ";"))) ++
        ((memberList c).flatMap (fun m => laid d (.blank :: memberSteps m)) ++
          c.methods.flatMap (fun m => laid d (.blank :: testMethodSteps m))) := by
  have hmembers : Level ((memberList c).flatMap fun m => .blank :: memberSteps m) :=
    level_flatMap (fun m => level_blank (level_memberSteps m)) _
  rw [blockSteps, List.append_assoc, (level_lines _ _).laid_append, hmembers.laid_append,
    laid_flatMap fun m => level_blank (level_memberSteps m),
    laid_flatMap fun m => level_blank (level_testMethodSteps m)]

end CrossBrowser.CSharp
