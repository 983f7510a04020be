import CrossBrowser.Proofs.Naming.CaseForms
import CrossBrowser.Proofs.Naming.Search
import Mathlib.Data.List.Forall2

/-! Which names are identifiers.

A word may have any numerals in it, but an identifier goes on with digits and letters that stand for
numbers only, not with a fraction or a superscript (`isOtherNumber`). These are kept as they are on
the way to a name, so a name is an identifier exactly if the text it was made from has none of
them. -/
namespace CrossBrowser.Naming
open Text CSharp

/-- A text without fractions, superscripts and other numerals that are no digits and no letters. -/
def Unnumbered (cs : List Char) : Prop := ∀ c ∈ cs, isOtherNumber c = false

instance (cs : List Char) : Decidable (Unnumbered cs) := List.decidableBAll _ cs

/-! ### Characters of identifiers -/

theorem isNumeral_of_otherNumber {c : Char} (h : isOtherNumber c = true) :
    isNumeral c = true ∧ isDecimalDigit c = false ∧ isLetterNumber c = false := by
  simpa [isOtherNumber, and_assoc] using h

/-- A numeral is in no table that has no numerals. -/
theorem not_numeral_of_apart {table : List (Nat × Nat)} (sorted : isSortedFrom 0 table = true)
    (h : apart numeralRanges table = true) {c : Char} (hc : covers table c.toNat = true) :
    isNumeral c = false := by
  rw [Bool.eq_false_iff]
  intro hnumeral
  rw [not_covers_of_apart numeralRanges_sorted sorted h hnumeral] at hc
  cases hc

theorem otherNumber_of_numeral {c : Char} (h : isNumeral c = false) : isOtherNumber c = false := by
  rw [isOtherNumber, h]
  rfl

theorem otherNumber_of_letter {c : Char} (h : isLetter c = true) : isOtherNumber c = false :=
  otherNumber_of_numeral (not_numeral_of_apart letterRanges_sorted (by decide +kernel) h)

theorem otherNumber_of_mark {c : Char} (h : isMark c = true) : isOtherNumber c = false :=
  otherNumber_of_numeral (not_numeral_of_apart markRanges_sorted (by decide +kernel) h)

theorem otherNumber_of_letterNumber {c : Char} (h : isLetterNumber c = true) :
    isOtherNumber c = false := by
  simp [isOtherNumber, h]

theorem isNumeral_of_letterNumber {c : Char} (h : isLetterNumber c = true) :
    isNumeral c = true := by
  have hwithin : (letterNumberRanges.all fun r => within numeralRanges r.1 r.2) = true := by
    decide +kernel
  obtain ⟨r, hr, hfirst, hlast⟩ := (covers_eq_true_iff letterNumberRanges_sorted c.toNat).mp h
  exact covers_of_within numeralRanges_sorted (List.all_eq_true.mp hwithin r hr) hfirst hlast

/-- No identifier has one of the other numbers in it. -/
theorem otherNumber_of_continues {c : Char} (h : continuesIdentifier c = true) :
    isOtherNumber c = false := by
  simp only [continuesIdentifier, Bool.or_eq_true] at h
  rcases h with ((((hletter | hnumber) | hdigit) | hmark) | hconnector) | hformat
  · exact otherNumber_of_letter hletter
  · exact otherNumber_of_letterNumber hnumber
  · simp [isOtherNumber, hdigit]
  · exact otherNumber_of_mark hmark
  · exact otherNumber_of_numeral
      (not_numeral_of_apart (by decide +kernel) (by decide +kernel) hconnector)
  · exact otherNumber_of_numeral
      (not_numeral_of_apart (by decide +kernel) (by decide +kernel) hformat)

theorem continues_of_starts {c : Char} (h : startsIdentifier c = true) :
    continuesIdentifier c = true := by
  simp only [startsIdentifier, Bool.or_eq_true, beq_iff_eq] at h
  rcases h with (rfl | hletter) | hnumber
  · decide +kernel
  · simp [continuesIdentifier, hletter]
  · simp [continuesIdentifier, hnumber]

theorem isPart_inWord {c : Char} (h : inWord c = true) : isPart c.toNat = true := by
  show (isLetter c || isNumeral c || isMark c) = true
  rw [show (isLetter c || isNumeral c) = true from h]
  rfl

/-- Of the letters, numerals and marks an identifier goes on with all but the other numbers. -/
theorem continues_of_part {c : Char} (hpart : isPart c.toNat = true)
    (hother : isOtherNumber c = false) : continuesIdentifier c = true := by
  have hcases : (isLetter c || isNumeral c || isMark c) = true := hpart
  simp only [Bool.or_eq_true] at hcases
  rcases hcases with (hletter | hnumeral) | hmark
  · simp [continuesIdentifier, hletter]
  · simp only [isOtherNumber, hnumeral, Bool.true_and, Bool.and_eq_false_iff,
      Bool.not_eq_eq_eq_not, Bool.not_false] at hother
    rcases hother with hdigit | hnumber
    · simp [continuesIdentifier, hdigit]
    · simp [continuesIdentifier, hnumber]
  · simp [continuesIdentifier, hmark]

/-! ### Both cases -/

namespace CaseForm
variable {c : Char} {form : List Char}

/-- The other case has no numbers of its own, and drops none. -/
theorem unnumbered_iff (h : CaseForm c form) (hpart : Naming.isPart c.toNat = true) :
    Unnumbered form ↔ isOtherNumber c = false := by
  constructor
  · intro hform
    by_contra hother
    obtain ⟨hnumeral, _, hnumber⟩ := isNumeral_of_otherNumber (Bool.not_eq_false _ ▸ hother)
    rw [h.numeral hnumeral hnumber] at hform
    exact hother (hform c List.mem_cons_self)
  · intro hother d hd
    rcases h.cases hpart with rfl | ⟨first, rest, rfl, hfirst, hrest⟩
    · rw [List.mem_singleton.mp hd]
      exact hother
    · rcases List.mem_cons.mp hd with rfl | hd
      · exact hfirst.elim otherNumber_of_letter otherNumber_of_letterNumber
      · exact (hrest d hd).elim otherNumber_of_letter otherNumber_of_mark

/-- The other case is not empty, and begins with a letter or a numeral again. -/
theorem exists_head (h : CaseForm c form) (hc : inWord c = true) :
    ∃ d rest, form = d :: rest ∧ inWord d = true := by
  rcases h.cases (isPart_inWord hc) with rfl | ⟨first, rest, rfl, hfirst, _⟩
  · exact ⟨c, [], rfl, hc⟩
  · refine ⟨first, rest, rfl, Bool.or_eq_true_iff.mpr ?_⟩
    exact hfirst.imp_right isNumeral_of_letterNumber

theorem isPart (h : CaseForm c form) (hpart : Naming.isPart c.toNat = true) :
    ∀ d ∈ form, Naming.isPart d.toNat = true := by
  intro d hd
  rcases h.cases hpart with rfl | ⟨first, rest, rfl, hfirst, hrest⟩
  · rw [List.mem_singleton.mp hd]
    exact hpart
  · rcases List.mem_cons.mp hd with rfl | hd
    · exact isPart_inWord (Bool.or_eq_true_iff.mpr (hfirst.imp_right isNumeral_of_letterNumber))
    · show (isLetter d || isNumeral d || isMark d) = true
      rcases hrest d hd with hletter | hmark
      · simp [hletter]
      · simp [hmark]

end CaseForm

theorem caseKept_isPart : CaseKept (fun c => isPart c.toNat = true) where
  upper c := (upper_caseForm c).isPart
  lower c := (lower_caseForm c).isPart

/-! ### Names -/

theorem unnumbered_append {xs ys : List Char} :
    Unnumbered (xs ++ ys) ↔ Unnumbered xs ∧ Unnumbered ys :=
  List.forall_mem_append

/-- A list that begins as words do: with a letter or a numeral, if it is not empty. -/
def BeginsWord (cs : List Char) : Prop := ∀ c, cs.head? = some c → inWord c = true

/-- A word with its first character in another case. -/
theorem unnumbered_form {c : Char} {form rest : List Char} (h : CaseForm c form)
    (hc : inWord c = true) : Unnumbered (form ++ rest) ↔ Unnumbered (c :: rest) := by
  rw [unnumbered_append, h.unnumbered_iff (isPart_inWord hc), Unnumbered, Unnumbered,
    List.forall_mem_cons]

theorem beginsWord_form {c : Char} {form rest : List Char} (h : CaseForm c form)
    (hc : inWord c = true) : BeginsWord (form ++ rest) := by
  obtain ⟨d, later, rfl, hd⟩ := h.exists_head hc
  intro e he
  rwa [← Option.some.inj he]

theorem inWord_of_mem_words {text : String} {word : List Char} (h : word ∈ words text.toList) :
    ∀ c ∈ word, inWord c = true := by
  intro c hc
  have hmem : c ∈ text.toList.filter inWord :=
    flatten_words text ▸ List.mem_flatten.mpr ⟨word, h, hc⟩
  exact (List.mem_filter.mp hmem).2

theorem unnumbered_capitalize {word : List Char} (h : ∀ c ∈ word, inWord c = true) :
    Unnumbered (capitalize word) ↔ Unnumbered word := by
  cases word with
  | nil => rfl
  | cons c rest => exact unnumbered_form (upper_caseForm c) (h c List.mem_cons_self)

/-- Words keep the other numbers of their text when they are joined. -/
theorem unnumbered_joinedWords (text : String) :
    Unnumbered (joinedWords text) ↔ Unnumbered text.toList := by
  have hwords : Unnumbered (joinedWords text) ↔ Unnumbered (words text.toList).flatten := by
    simp only [Unnumbered, joinedWords, List.mem_flatMap, List.mem_flatten]
    constructor
    · rintro h c ⟨word, hword, hc⟩
      have hkept := (unnumbered_capitalize (inWord_of_mem_words hword)).mp
      exact hkept (fun d hd => h d ⟨word, hword, hd⟩) c hc
    · rintro h c ⟨word, hword, hc⟩
      have hkept := (unnumbered_capitalize (inWord_of_mem_words hword)).mpr
      exact hkept (fun d hd => h d ⟨word, hword, hd⟩) c hc
  rw [hwords, flatten_words]
  constructor
  · intro h c hc
    by_contra hother
    have hnumeral := (isNumeral_of_otherNumber (Bool.not_eq_false _ ▸ hother)).1
    have hword : inWord c = true := Bool.or_eq_true_iff.mpr (.inr hnumeral)
    exact hother (h c (List.mem_filter.mpr ⟨hc, hword⟩))
  · exact fun h c hc => h c (List.mem_filter.mp hc).1

theorem beginsWord_joinedWords (text : String) : BeginsWord (joinedWords text) := by
  have hin : ∀ word ∈ words text.toList, ∀ c ∈ word, inWord c = true :=
    fun _ => inWord_of_mem_words
  have hne : ∀ word ∈ words text.toList, word ≠ [] := fun word hword =>
    of_decide_eq_true (List.mem_filter.mp hword).2
  unfold joinedWords
  cases hwords : words text.toList with
  | nil => intro c hc; cases hc
  | cons word rest =>
    rw [hwords] at hin hne
    obtain ⟨c, later, rfl⟩ := List.exists_cons_of_ne_nil (hne word List.mem_cons_self)
    rw [List.flatMap_cons, capitalize, List.append_assoc]
    exact beginsWord_form (upper_caseForm c) (hin _ List.mem_cons_self c List.mem_cons_self)

theorem unnumbered_uncapitalize {cs : List Char} (h : BeginsWord cs) :
    Unnumbered (uncapitalize cs) ↔ Unnumbered cs := by
  cases cs with
  | nil => rfl
  | cons c rest => exact unnumbered_form (lower_caseForm c) (h c rfl)

theorem beginsWord_uncapitalize {cs : List Char} (h : BeginsWord cs) :
    BeginsWord (uncapitalize cs) := by
  cases cs with
  | nil => exact h
  | cons c rest => exact beginsWord_form (lower_caseForm c) (h c rfl)

theorem isPart_joinedWords (text : String) : ∀ c ∈ joinedWords text, isPart c.toNat = true :=
  caseKept_isPart.joinedWords fun _ _ => isPart_inWord

/-- With an underscore where it is needed, what begins as a word does is an identifier unless one of
the other numbers is in it. -/
theorem isIdentifierList_guardStart {cs : List Char} (hbegins : BeginsWord cs)
    (hpart : ∀ c ∈ cs, isPart c.toNat = true) :
    isIdentifierList (guardStart cs) = true ↔ Unnumbered cs := by
  have hcontinues : (∀ c ∈ cs, continuesIdentifier c = true) ↔ Unnumbered cs :=
    ⟨fun h c hc => otherNumber_of_continues (h c hc),
      fun h c hc => continues_of_part (hpart c hc) (h c hc)⟩
  rw [← hcontinues]
  cases cs with
  | nil => simp [guardStart, isIdentifierList, startsIdentifier]
  | cons c rest =>
    rw [guardStart]
    split
    · simp [isIdentifierList, startsIdentifier]
    · next hnumeral =>
      have hletter : isLetter c = true :=
        (Bool.or_eq_true_iff.mp (hbegins c rfl)).resolve_right hnumeral
      have hstarts : startsIdentifier c = true := by simp [startsIdentifier, hletter]
      simp [isIdentifierList, hstarts, continues_of_starts hstarts]

theorem isIdentifier_pascal (text : String) :
    isIdentifier (pascal text) = true ↔ Unnumbered text.toList := by
  rw [isIdentifier, pascal, String.toList_ofList,
    isIdentifierList_guardStart (beginsWord_joinedWords text) (isPart_joinedWords text),
    unnumbered_joinedWords]

theorem isIdentifier_parameterName (column : String) :
    isIdentifier (parameterName column) = true ↔ Unnumbered column.toList := by
  have hbegins := beginsWord_joinedWords column
  rw [isIdentifier, parameterName, String.toList_ofList,
    isIdentifierList_guardStart (beginsWord_uncapitalize hbegins)
      (caseKept_isPart.uncapitalize (isPart_joinedWords column)),
    unnumbered_uncapitalize hbegins, unnumbered_joinedWords]

/-- A name that begins with an underscore goes on with a numeral, if it goes on. -/
theorem isNumeral_of_underscore {column : String} {c : Char} {rest : List Char}
    (h : (parameterName column).toList = '_' :: c :: rest) : isNumeral c = true := by
  have hpart := caseKept_isPart.uncapitalize (isPart_joinedWords column)
  rw [parameterName, String.toList_ofList] at h
  cases hname : uncapitalize (joinedWords column) with
  | nil =>
    rw [hname] at h
    cases h
  | cons d later =>
    rw [hname, guardStart] at h
    split at h
    · next hnumeral =>
      obtain rfl : d = c := (List.cons.inj (List.cons.inj h).2).1
      exact hnumeral
    · obtain rfl : d = '_' := (List.cons.inj h).1
      exact absurd (hpart '_' (hname ▸ List.mem_cons_self)) (by decide +kernel)

/-! ### What names get at the end -/

theorem guardStart_ne_nil (cs : List Char) : guardStart cs ≠ [] := by
  unfold guardStart
  split
  · exact List.cons_ne_nil _ _
  · split <;> exact List.cons_ne_nil _ _

/-- Characters with which an identifier can go on do not change whether a name is one. -/
theorem isIdentifier_append {name tail : String} (hne : name.toList ≠ [])
    (htail : ∀ c ∈ tail.toList, continuesIdentifier c = true) :
    isIdentifier (name ++ tail) = isIdentifier name := by
  obtain ⟨c, rest, hname⟩ := List.exists_cons_of_ne_nil hne
  rw [isIdentifier, isIdentifier, String.toList_append, hname, List.cons_append, isIdentifierList,
    isIdentifierList, List.all_append, List.all_eq_true.mpr htail, Bool.and_true]

theorem isIdentifier_className (title : String) :
    isIdentifier (className title) = true ↔ Unnumbered title.toList := by
  have hne : (pascal title).toList ≠ [] := by
    rw [pascal, String.toList_ofList]
    exact guardStart_ne_nil _
  have hsuffix : classSuffix.toList.all continuesIdentifier = true := by decide +kernel
  rw [className, isIdentifier_append hne (List.all_eq_true.mp hsuffix), isIdentifier_pascal]

theorem continues_of_isDigit {c : Char} (h : c.isDigit = true) : continuesIdentifier c = true := by
  have hrange : (0x30, 0x39) ∈ decimalDigitRanges := by decide
  have hsorted : isSortedFrom 0 decimalDigitRanges = true := by decide +kernel
  have hdigit : isDecimalDigit c = true := by
    rw [Char.isDigit, Bool.and_eq_true, decide_eq_true_eq, decide_eq_true_eq] at h
    exact (covers_eq_true_iff hsorted c.toNat).mpr ⟨_, hrange, h⟩
  simp [continuesIdentifier, hdigit]

/-- A number after a name does not change whether it is an identifier. -/
theorem isIdentifier_attempt {base : String} (hne : base.toList ≠ []) (i : Nat) :
    isIdentifier (attempt base i) = isIdentifier base := by
  cases i with
  | zero => rfl
  | succ i =>
    refine isIdentifier_append hne fun c hc => continues_of_isDigit ?_
    rw [Nat.toString_eq_ofList_toDigits, String.toList_ofList] at hc
    exact Nat.isDigit_of_mem_toDigits (by decide) (by decide) hc

theorem isIdentifier_distinctNames (taken columns : List String) :
    List.Forall₂ (fun column name => isIdentifier name = true ↔ Unnumbered column.toList)
      columns (distinctNames taken columns) := by
  induction columns generalizing taken with
  | nil => exact .nil
  | cons column rest ih =>
    have hne : (parameterName column).toList ≠ [] := by
      rw [parameterName, String.toList_ofList]
      exact guardStart_ne_nil _
    obtain ⟨i, _, hname, _⟩ := firstFree_eq_attempt taken (parameterName column)
    refine .cons ?_ (ih _)
    rw [hname, isIdentifier_attempt hne, isIdentifier_parameterName]

/-- A parameter has an identifier for its name, the `@` that escapes it aside, exactly if its column
has none of the other numbers in it. -/
theorem isIdentifier_parameterNames (columns reserved : List String) :
    List.Forall₂
      (fun column name => isIdentifier (unescape name) = true ↔ Unnumbered column.toList)
      columns (parameterNames columns reserved) := by
  have hnames := isIdentifier_distinctNames reserved columns
  rwa [← map_unescape_parameterNames, List.forall₂_map_right_iff] at hnames

end CrossBrowser.Naming
