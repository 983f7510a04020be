import CrossBrowser.CSharp.Attribute
import CrossBrowser.Proofs.CSharp.Literal

/-! Attributes and parameter lists can be told from what is written after them.

The arguments of a test case are one list of four kinds of things (`CaseArgument`), each of which
its first characters tell from the others; the list in turn tells all of the case but its origin,
which is not written. Parameters are told by the signs between them, which stand in no type or
name. -/
namespace CrossBrowser

/-- What of a test case is written: not what it was made from. -/
def TestCase.written (c : TestCase) : TestCase := { c with origin := .row }

theorem TestCase.written_eq_iff (c d : TestCase) :
    c.written = d.written ↔
      c.arguments = d.arguments ∧ c.ignoreReason = d.ignoreReason ∧ c.category = d.category ∧
        c.name = d.name := by
  simp only [written, TestCase.mk.injEq, and_true]

namespace CSharp
open Text

/-! ### Attributes -/

theorem attributeText_toList (name arguments : String) :
    (attributeText name arguments).toList =
      ("[" ++ attributeNamespace ++ "." ++ name ++ "(").toList ++
        (arguments.toList ++ [')', ']']) := by
  rw [attributeText, String.toList_append, String.toList_append, List.append_assoc]
  rfl

theorem attributeText_ne_empty (name arguments : String) : attributeText name arguments ≠ "" := by
  simp [attributeText]

/-- An attribute with a single text for its argument. -/
theorem tells_textAttribute (name : String) :
    Tells (fun text => (attributeText name (stringLiteral text)).toList) id := by
  simp only [attributeText_toList]
  exact tells_stringLiteral.between _ _

/-! ### Test cases -/

/-- An argument of the attribute of a test case. -/
inductive CaseArgument where
  /-- A value passed to the method. -/
  | passed (value : Literal)
  | ignore (reason : String)
  | category (value : String)
  | name (value : String)

namespace CaseArgument

def text : CaseArgument → String
  | passed value => literal value
  | ignore reason => "Ignore" ++ "=" ++ stringLiteral reason
  | category value => "Category" ++ "=" ++ stringLiteral value
  | name value => "TestName" ++ "=" ++ stringLiteral value

def passed? : CaseArgument → Option Literal
  | passed value => some value
  | _ => none

def ignore? : CaseArgument → Option String
  | ignore reason => some reason
  | _ => none

def category? : CaseArgument → Option String
  | category value => some value
  | _ => none

def name? : CaseArgument → Option String
  | name value => some value
  | _ => none

/-- The arguments of the attribute of a test case. -/
def ofCase (c : TestCase) : List CaseArgument :=
  c.arguments.map passed ++ (c.ignoreReason.map ignore).toList ++
    (c.category.map category).toList ++ (c.name.map name).toList

/-- The test case that has these arguments. -/
def toCase (as : List CaseArgument) : TestCase where
  arguments := as.filterMap passed?
  ignoreReason := (as.filterMap ignore?).head?
  category := (as.filterMap category?).head?
  name := (as.filterMap name?).head?
  origin := .row

theorem toCase_ofCase (c : TestCase) : toCase (ofCase c) = c.written := by
  obtain ⟨arguments, ignoreReason, category, name, origin⟩ := c
  cases ignoreReason <;> cases category <;> cases name <;>
    simp [toCase, ofCase, TestCase.written, List.filterMap_map, Function.comp_def, List.findSome?,
      passed?, ignore?, category?, name?]

theorem tells_named (label : String) :
    Tells (fun value => (label ++ "=" ++ stringLiteral value).toList) id := by
  simpa only [String.toList_append, List.append_nil] using
    tells_stringLiteral.between (label ++ "=").toList []

theorem tells_text : Tells (fun a : CaseArgument => a.text.toList) id := by
  intro a b r s h
  cases a <;> cases b
  case passed.passed v w =>
    obtain ⟨hvalue, hrest⟩ := tells_literal h
    exact ⟨congrArg passed hvalue, hrest⟩
  case ignore.ignore v w =>
    obtain ⟨hvalue, hrest⟩ := tells_named _ h
    exact ⟨congrArg ignore hvalue, hrest⟩
  case category.category v w =>
    obtain ⟨hvalue, hrest⟩ := tells_named _ h
    exact ⟨congrArg category hvalue, hrest⟩
  case name.name v w =>
    obtain ⟨hvalue, hrest⟩ := tells_named _ h
    exact ⟨congrArg name hvalue, hrest⟩
  case passed.ignore v _ | passed.category v _ | passed.name v _ | ignore.passed _ v |
      category.passed _ v | name.passed _ v =>
    cases v <;> simp [text, literal, stringLiteral_toList, arrayLiteral_toList] at h
  all_goals simp [text] at h

/-- The parenthesis after the arguments is none of them. -/
theorem foreign_close (rest : List Char) :
    Foreign (fun a : CaseArgument => a.text.toList) (')' :: rest) := by
  intro a t h
  cases a
  case passed v =>
    cases v <;> simp [text, literal, stringLiteral_toList, arrayLiteral_toList] at h
  all_goals simp [text] at h

end CaseArgument

theorem caseArguments_eq (c : TestCase) :
    caseArguments c = (CaseArgument.ofCase c).map CaseArgument.text := by
  obtain ⟨arguments, ignoreReason, category, name, origin⟩ := c
  cases ignoreReason <;> cases category <;> cases name <;>
    simp [caseArguments, namedArgument, CaseArgument.ofCase, CaseArgument.text]

theorem caseAttribute_toList (c : TestCase) :
    (caseAttribute c).toList =
      ("[" ++ attributeNamespace ++ "." ++ "TestCaseAttribute" ++ "(").toList ++
        (", ".toList.intercalate ((CaseArgument.ofCase c).map fun a => a.text.toList) ++
          [')', ']']) := by
  rw [caseAttribute, attributeText_toList, caseArguments_eq, String.toList_intercalate,
    List.map_map]
  rfl

/-- The attribute of a test case tells all of it but what it was made from. -/
theorem tells_caseAttribute : Tells (fun c => (caseAttribute c).toList) TestCase.written := by
  intro c d r s h
  simp only [caseAttribute_toList, List.append_assoc, List.append_cancel_left_eq,
    List.cons_append, List.nil_append] at h
  obtain ⟨harguments, hrest⟩ := CaseArgument.tells_text.intercalate ", ".toList
    (CaseArgument.foreign_close _) (CaseArgument.foreign_close _)
    (foreign_separated _ (by decide) _) (foreign_separated _ (by decide) _) h
  rw [List.map_id, List.map_id] at harguments
  refine ⟨?_, by simpa using hrest⟩
  rw [← CaseArgument.toCase_ofCase, ← CaseArgument.toCase_ofCase, harguments]

/-- What a case was made from is not written. -/
theorem caseAttribute_written (c : TestCase) : caseAttribute c.written = caseAttribute c := rfl

/-- **An attribute tells its case.** Whatever signs stand in its texts, no two test cases have the
same attribute, unless they differ in nothing but what they were made from. -/
theorem caseAttribute_eq_iff (c d : TestCase) :
    caseAttribute c = caseAttribute d ↔
      c.arguments = d.arguments ∧ c.ignoreReason = d.ignoreReason ∧ c.category = d.category ∧
        c.name = d.name := by
  rw [← TestCase.written_eq_iff]
  constructor
  · intro h
    have htext : (caseAttribute c).toList ++ [] = (caseAttribute d).toList ++ [] := by rw [h]
    exact (tells_caseAttribute htext).1
  · intro h
    rw [← caseAttribute_written c, h, caseAttribute_written]

/-! ### Parameters -/

/-- Parameters without a default, with none of the signs around a parameter in their type or
name. -/
structure PlainParameter (p : Parameter) : Prop where
  default : p.default = none
  type : ∀ c ∈ p.type.toList, c ≠ ' ' ∧ c ≠ ',' ∧ c ≠ ')'
  name : ∀ c ∈ p.name.toList, c ≠ ',' ∧ c ≠ ')'

theorem PlainParameter.toList {p : Parameter} (h : PlainParameter p) :
    (parameter p).toList = p.type.toList ++ ' ' :: p.name.toList := by
  simp [parameter, h.default]

theorem PlainParameter.no_signs {p : Parameter} (h : PlainParameter p) :
    ∀ c ∈ (parameter p).toList, c ≠ ',' ∧ c ≠ ')' := by
  intro c hc
  rw [h.toList] at hc
  rcases List.mem_append.mp hc with hc | hc
  · exact (h.type c hc).2
  · rcases List.mem_cons.mp hc with rfl | hc
    · decide
    · exact h.name c hc

theorem PlainParameter.inj {p q : Parameter} (hp : PlainParameter p) (hq : PlainParameter q)
    (h : (parameter p).toList = (parameter q).toList) : p = q := by
  rw [hp.toList, hq.toList] at h
  obtain ⟨htype, hname⟩ := append_stop_inj ' ' (fun hc => (hp.type _ hc).1 rfl)
    (fun hc => (hq.type _ hc).1 rfl) h
  obtain ⟨type, name, default⟩ := p
  obtain ⟨type', name', default'⟩ := q
  obtain rfl := String.toList_inj.mp htype
  obtain rfl := String.toList_inj.mp hname
  obtain rfl := hp.default
  obtain rfl := hq.default
  rfl

theorem parameterList_toList (ps : List Parameter) :
    (parameterList ps).toList = ", ".toList.intercalate (ps.map fun p => (parameter p).toList) := by
  rw [parameterList, String.toList_intercalate, List.map_map]
  rfl

theorem parameterList_no_close {ps : List Parameter} (h : ∀ p ∈ ps, PlainParameter p) :
    ')' ∉ (parameterList ps).toList := by
  rw [parameterList_toList]
  cases ps with
  | nil => simp
  | cons p ps =>
    rw [List.map_cons, intercalate_cons, List.mem_append, List.mem_flatMap]
    rintro (hp | ⟨_, htext, hc⟩)
    · exact ((h p List.mem_cons_self).no_signs _ hp).2 rfl
    · obtain ⟨q, hq, rfl⟩ := List.mem_map.mp htext
      rcases List.mem_append.mp hc with hc | hc
      · revert hc
        decide
      · exact ((h q (List.mem_cons_of_mem _ hq)).no_signs _ hc).2 rfl

/-- The parameters of a method, up to the parenthesis that ends them. -/
theorem parameterList_tells {ps qs : List Parameter} (hps : ∀ p ∈ ps, PlainParameter p)
    (hqs : ∀ q ∈ qs, PlainParameter q) {r s : List Char}
    (h : (parameterList ps).toList ++ ')' :: r = (parameterList qs).toList ++ ')' :: s) :
    ps = qs ∧ r = s := by
  obtain ⟨hlist, hrest⟩ := append_stop_inj ')' (parameterList_no_close hps)
    (parameterList_no_close hqs) h
  rw [parameterList_toList, parameterList_toList] at hlist
  have hpieces : ∀ {ps : List Parameter}, (∀ p ∈ ps, PlainParameter p) →
      ∀ p ∈ ps, (parameter p).toList ≠ [] ∧ ',' ∉ (parameter p).toList := by
    intro ps hps p hp
    refine ⟨?_, fun hc => ((hps p hp).no_signs _ hc).1 rfl⟩
    rw [(hps p hp).toList]
    exact List.append_ne_nil_of_right_ne_nil _ (List.cons_ne_nil _ _)
  exact ⟨intercalate_stop_inj ',' [' '] (hpieces hps) (hpieces hqs)
    (fun p hp q hq => (hps p hp).inj (hqs q hq)) hlist, hrest⟩

end CSharp
end CrossBrowser
