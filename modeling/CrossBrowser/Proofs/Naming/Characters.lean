import CrossBrowser.Naming.Parameters
import CrossBrowser.Proofs.Text.Splitting
import Mathlib.Data.List.Basic

/-! The characters of names.

Names are made of letters and numerals, of their upper and lower case forms, of underscores and
digits, and of an `@` in front where a reserved word is escaped. What the characters of words have
and both case forms keep is had by all that the words are joined to (`CaseKept`); if the underscore
and the digits have it too, by every character of a name before it is escaped (`InNames`). Here are
two such properties: in the order of characters all of these come after blanks, brackets and
separators (`Wordlike`), and none of them is `@`. -/
namespace CrossBrowser.Naming
open Text

/-- Both case forms of a character keep a property. -/
structure CaseKept (P : Char → Prop) : Prop where
  upper : ∀ c, P c → ∀ d ∈ Text.upper c, P d
  lower : ∀ c, P c → ∀ d ∈ Text.lower c, P d

/-- What makes the characters of all names have a property: the characters of words have it, their
case forms keep it, and so do the characters that are added. -/
structure InNames (P : Char → Prop) : Prop extends CaseKept P where
  word : ∀ c, inWord c = true → P c
  underscore : P '_'
  digit : ∀ c : Char, c.isDigit = true → P c

/-! ### The parts of a name -/

/-- The words of a text hold its characters that belong to words. -/
theorem flatten_words (text : String) :
    (words text.toList).flatten = text.toList.filter inWord := by
  rw [words, List.flatten_filter_ne_nil, flatten_splitOnP]
  simp

namespace CaseKept
variable {P : Char → Prop}

theorem capitalize (hP : CaseKept P) {word : List Char} (h : ∀ c ∈ word, P c) :
    ∀ c ∈ Naming.capitalize word, P c := by
  cases word with
  | nil => exact h
  | cons first rest =>
    intro c hc
    rcases List.mem_append.mp hc with hc | hc
    · exact hP.upper first (h first List.mem_cons_self) c hc
    · exact h c (List.mem_cons_of_mem _ hc)

theorem uncapitalize (hP : CaseKept P) {word : List Char} (h : ∀ c ∈ word, P c) :
    ∀ c ∈ Naming.uncapitalize word, P c := by
  cases word with
  | nil => exact h
  | cons first rest =>
    intro c hc
    rcases List.mem_append.mp hc with hc | hc
    · exact hP.lower first (h first List.mem_cons_self) c hc
    · exact h c (List.mem_cons_of_mem _ hc)

theorem joinedWords (hP : CaseKept P) {text : String}
    (h : ∀ c ∈ text.toList, inWord c = true → P c) : ∀ c ∈ Naming.joinedWords text, P c := by
  intro c hc
  obtain ⟨word, hword, hc⟩ := List.mem_flatMap.mp hc
  refine hP.capitalize (fun d hd => ?_) c hc
  have hmem : d ∈ text.toList.filter inWord :=
    flatten_words text ▸ List.mem_flatten.mpr ⟨word, hword, hd⟩
  obtain ⟨htext, hin⟩ := List.mem_filter.mp hmem
  exact h d htext hin

end CaseKept

namespace InNames
variable {P : Char → Prop}

theorem joinedWords (hP : InNames P) (text : String) : ∀ c ∈ Naming.joinedWords text, P c :=
  hP.toCaseKept.joinedWords fun c _ => hP.word c

theorem guardStart (hP : InNames P) {name : List Char} (h : ∀ c ∈ name, P c) :
    ∀ c ∈ Naming.guardStart name, P c := by
  intro c hc
  unfold Naming.guardStart at hc
  split at hc
  · exact List.mem_singleton.mp hc ▸ hP.underscore
  · split at hc
    · rcases List.mem_cons.mp hc with rfl | hc
      · exact hP.underscore
      · exact h c hc
    · exact h c hc

theorem pascal (hP : InNames P) (text : String) : ∀ c ∈ (Naming.pascal text).toList, P c := by
  rw [Naming.pascal, String.toList_ofList]
  exact hP.guardStart (hP.joinedWords text)

theorem parameterName (hP : InNames P) (column : String) :
    ∀ c ∈ (Naming.parameterName column).toList, P c := by
  rw [Naming.parameterName, String.toList_ofList]
  exact hP.guardStart (hP.uncapitalize (hP.joinedWords column))

/-- A free name is the name itself, or the name with a number after it. -/
theorem firstFree (hP : InNames P) (taken : List String) {base : String}
    (h : ∀ c ∈ base.toList, P c) : ∀ c ∈ (Naming.firstFree taken base).toList, P c := by
  have hcandidates : ∀ name ∈ candidates base taken.length, ∀ c ∈ name.toList, P c := by
    intro name hname c hc
    rcases List.mem_cons.mp hname with rfl | hname
    · exact h c hc
    · obtain ⟨i, _, rfl⟩ := List.mem_map.mp hname
      rw [String.toList_append, Nat.toString_eq_ofList_toDigits, String.toList_ofList] at hc
      rcases List.mem_append.mp hc with hc | hc
      · exact h c hc
      · exact hP.digit c (Nat.isDigit_of_mem_toDigits (by decide) (by decide) hc)
  unfold Naming.firstFree
  cases hfind : (candidates base taken.length).find? (· ∉ taken) with
  | none => exact h
  | some name => exact hcandidates name (List.mem_of_find?_eq_some hfind)

/-- The characters of the names for columns, before escaping. -/
theorem distinctNames (hP : InNames P) (taken columns : List String) :
    ∀ name ∈ Naming.distinctNames taken columns, ∀ c ∈ name.toList, P c := by
  induction columns generalizing taken with
  | nil => intro name hname; cases hname
  | cons column rest ih =>
    intro name hname
    rcases List.mem_cons.mp hname with rfl | hname
    · exact hP.firstFree taken (hP.parameterName column)
    · exact ih _ name hname

end InNames

/-! ### Upper and lower case -/

/-- A property of code points that all counterparts in the other case have, a character that has it
keeps in the other case. -/
theorem mapCase_keeps {Q : Nat → Prop} {expansions : List (Nat × List Nat)} {runs : List CaseRun}
    (hexpansions : ∀ e ∈ expansions, ∀ k ∈ e.2, Q k)
    (hruns : ∀ r ∈ runs, ∀ n, r.contains n = true → Q (n + r.distance).toNat)
    {n : Nat} (hn : Q n) : ∀ k ∈ mapCase expansions runs n, Q k := by
  intro k hk
  unfold mapCase at hk
  split at hk
  · next image hlookup =>
    obtain ⟨before, after, rfl, _⟩ := List.lookup_eq_some_iff.mp hlookup
    exact hexpansions (n, image) (by simp) k hk
  · split at hk
    · next run hfind =>
      rw [List.mem_singleton.mp hk]
      have hcontains := List.find?_some hfind
      exact hruns run (List.mem_of_find?_eq_some hfind) n hcontains
    · rw [List.mem_singleton.mp hk]
      exact hn

theorem toNat_ofNat {n : Nat} (h : n.isValidChar) : (Char.ofNat n).toNat = n := by
  rw [Char.ofNat, dif_pos h]
  rfl

theorem between_of_contains {r : CaseRun} {n : Nat} (h : r.contains n = true) :
    r.first ≤ n ∧ n ≤ r.last := by
  simp only [CaseRun.contains, Bool.and_eq_true, decide_eq_true_eq] at h
  exact h.1

/-! ### Signs that come before the digits -/

/-- Whether a code point is that of a character from the digits on. The blank, brackets, the comma
and the full stop come before. -/
def Wordlike (n : Nat) : Prop := '0'.toNat ≤ n ∧ n.isValidChar

instance (n : Nat) : Decidable (Wordlike n) := inferInstanceAs (Decidable (_ ∧ _))

theorem wordlike_toNat {c : Char} (h : '0'.toNat ≤ c.toNat) : Wordlike c.toNat := ⟨h, c.valid⟩

theorem Wordlike.ofNat {n : Nat} (h : Wordlike n) : Wordlike (Char.ofNat n).toNat := by
  rw [toNat_ofNat h.2]
  exact h

theorem wordlike_of_range {table : List (Nat × Nat)}
    (sorted : isSortedFrom '0'.toNat table = true) {c : Char}
    (h : ∃ r ∈ table, r.1 ≤ c.toNat ∧ c.toNat ≤ r.2) : Wordlike c.toNat := by
  obtain ⟨r, hr, hfirst, _⟩ := h
  exact wordlike_toNat (Nat.le_trans (le_of_isSortedFrom sorted r hr) hfirst)

theorem wordlike_inWord {c : Char} (h : inWord c = true) : Wordlike c.toNat := by
  rcases Bool.or_eq_true_iff.mp h with h | h
  · exact wordlike_of_range (by decide +kernel) ((isLetter_iff c).mp h)
  · exact wordlike_of_range (by decide +kernel) ((isNumeral_iff c).mp h)

/-- The counterparts of the characters of a run lie between those of the first and of the last. -/
def RunWordlike (r : CaseRun) : Prop :=
  '0'.toNat ≤ r.first + r.distance ∧
    (r.last + r.distance < 0xD800 ∨
      (0xDFFF < r.first + r.distance ∧ r.last + r.distance < 0x110000))

instance (r : CaseRun) : Decidable (RunWordlike r) := inferInstanceAs (Decidable (_ ∧ _))

theorem RunWordlike.image {r : CaseRun} (h : RunWordlike r) {n : Nat}
    (hn : r.contains n = true) : Wordlike (n + r.distance).toNat := by
  obtain ⟨hlow, hvalid⟩ := h
  have hbetween := between_of_contains hn
  refine ⟨by omega, ?_⟩
  show _ < 0xD800 ∨ (0xDFFF < _ ∧ _ < 0x110000)
  omega

theorem wordlike_mapCase {expansions : List (Nat × List Nat)} {runs : List CaseRun}
    (hexpansions : ∀ e ∈ expansions, ∀ k ∈ e.2, Wordlike k) (hruns : ∀ r ∈ runs, RunWordlike r)
    {c : Char} (hc : Wordlike c.toNat) :
    ∀ d ∈ (mapCase expansions runs c.toNat).map Char.ofNat, Wordlike d.toNat := by
  intro d hd
  obtain ⟨k, hk, rfl⟩ := List.mem_map.mp hd
  exact (mapCase_keeps hexpansions (fun r hr _ hn => (hruns r hr).image hn) hc k hk).ofNat

theorem inNames_wordlike : InNames (fun c => Wordlike c.toNat) where
  word _ hc := wordlike_inWord hc
  upper _ hc := wordlike_mapCase (by decide +kernel) (by decide +kernel) hc
  lower _ hc := wordlike_mapCase (by decide +kernel) (by decide +kernel) hc
  underscore := by decide
  digit c hc := by
    rw [Char.isDigit, Bool.and_eq_true, decide_eq_true_eq] at hc
    exact wordlike_toNat hc.1

theorem wordlike_escape {name : String} (h : ∀ c ∈ name.toList, Wordlike c.toNat) :
    ∀ c ∈ (escape name).toList, Wordlike c.toNat := by
  unfold escape
  split
  · intro c hc
    rw [String.toList_append] at hc
    rcases List.mem_append.mp hc with hc | hc
    · rw [List.mem_singleton.mp hc]
      decide
    · exact h c hc
  · exact h

/-- The names of parameters have no signs in them. -/
theorem wordlike_parameterNames (columns reserved : List String) :
    ∀ name ∈ parameterNames columns reserved, ∀ c ∈ name.toList, Wordlike c.toNat := by
  intro name hname
  obtain ⟨plain, hplain, rfl⟩ := List.mem_map.mp hname
  exact wordlike_escape (inNames_wordlike.distinctNames reserved columns plain hplain)

/-! ### The sign that escapes -/

/-- The counterparts of the characters of a run all come before the `@`, or all after it. -/
def RunAvoidsAt (r : CaseRun) : Prop :=
  r.last + r.distance < '@'.toNat ∨ '@'.toNat < r.first + r.distance

instance (r : CaseRun) : Decidable (RunAvoidsAt r) := inferInstanceAs (Decidable (_ ∨ _))

theorem RunAvoidsAt.image {r : CaseRun} (h : RunAvoidsAt r) {n : Nat}
    (hn : r.contains n = true) : (n + r.distance).toNat ≠ '@'.toNat := by
  have hbetween := between_of_contains hn
  simp only [RunAvoidsAt, Char.reduceToNat] at h ⊢
  omega

theorem ofNat_ne_at {n : Nat} (h : n ≠ '@'.toNat) : Char.ofNat n ≠ '@' := by
  by_cases hn : n.isValidChar
  · exact fun he => h ((toNat_ofNat hn).symm.trans (congrArg Char.toNat he))
  · rw [Char.ofNat, dif_neg hn]
    decide

theorem ne_at_mapCase {expansions : List (Nat × List Nat)} {runs : List CaseRun}
    (hexpansions : ∀ e ∈ expansions, ∀ k ∈ e.2, k ≠ '@'.toNat)
    (hruns : ∀ r ∈ runs, RunAvoidsAt r) {c : Char} (hc : c ≠ '@') :
    ∀ d ∈ (mapCase expansions runs c.toNat).map Char.ofNat, d ≠ '@' := by
  intro d hd
  obtain ⟨k, hk, rfl⟩ := List.mem_map.mp hd
  have hnat : c.toNat ≠ '@'.toNat := fun he => hc (Char.toNat_inj.mp he)
  exact ofNat_ne_at (mapCase_keeps hexpansions (fun r hr _ hn => (hruns r hr).image hn) hnat k hk)

theorem inNames_ne_at : InNames (· ≠ '@') where
  word c hc := by
    rintro rfl
    exact absurd hc (by decide +kernel)
  upper _ hc := ne_at_mapCase (by decide +kernel) (by decide +kernel) hc
  lower _ hc := ne_at_mapCase (by decide +kernel) (by decide +kernel) hc
  underscore := by decide
  digit c hc := by
    rintro rfl
    exact absurd hc (by decide)

end CrossBrowser.Naming
