import CrossBrowser.CSharp.Identifier
import CrossBrowser.Proofs.Naming.Characters
import CrossBrowser.Proofs.Text.Ranges

/-! Upper and lower case within names.

A letter, a numeral or a mark that changes with the case becomes a letter, or a letter that stands
for a number, and after it there may be more letters and marks (`CaseForm`). Numerals other than
digits and letters do not change at all. Both are read off the tables of the case mappings, run by
run. -/
namespace CrossBrowser.Naming
open Text

/-- Whether a code point is that of a letter, a numeral or a mark. -/
def isPart (n : Nat) : Bool :=
  covers letterRanges n || covers numeralRanges n || covers markRanges n

/-! ### The tables -/

theorem letterRanges_sorted : isSortedFrom 0 letterRanges = true := by decide +kernel

theorem numeralRanges_sorted : isSortedFrom 0 numeralRanges = true := by decide +kernel

theorem letterNumberRanges_sorted : isSortedFrom 0 letterNumberRanges = true := by decide +kernel

theorem markRanges_sorted : isSortedFrom 0 markRanges = true := by decide +kernel

/-- The counterpart of a code point of a run. -/
def counterpart (r : CaseRun) (n : Nat) : Nat := (n + r.distance).toNat

/-- The range that a run lies in. -/
def bounds (r : CaseRun) : Nat × Nat := (r.first, r.last)

/-- Whether a run has no letter, numeral or mark. -/
def isForeign (r : CaseRun) : Bool :=
  apart [bounds r] letterRanges && apart [bounds r] numeralRanges && apart [bounds r] markRanges

/-- Whether all between the first and the last counterpart of a run is in a table. -/
def mapsInto (table : List (Nat × Nat)) (r : CaseRun) : Bool :=
  within table (counterpart r r.first) (counterpart r r.last)

/-- Whether the counterparts of a run are letters, though not all between them are. -/
def mapsToLetters (r : CaseRun) : Bool :=
  (List.range ((r.last - r.first) / r.step + 1)).all fun i =>
    let n := counterpart r (r.first + i * r.step)
    within letterRanges n n

/-- Whether several characters are a letter with letters and marks after it. -/
def isSpelled : List Nat → Bool
  | [] => false
  | first :: rest =>
    within letterRanges first first &&
      rest.all fun k => within letterRanges k k || within markRanges k k

/-- What the tables of a case mapping are like. -/
structure CaseTables (expansions : List (Nat × List Nat)) (runs : List CaseRun) : Prop where
  spelled : ∀ e ∈ expansions, isSpelled e.2 = true
  lettered : ∀ r ∈ runs, (mapsInto letterRanges r || mapsInto letterNumberRanges r ||
    isForeign r || mapsToLetters r) = true
  /-- Characters that become several are not numerals. -/
  expansionsApart : apart (expansions.map fun e => (e.1, e.1)) numeralRanges = true
  expansionsSorted : isSortedFrom 0 (expansions.map fun e => (e.1, e.1)) = true
  /-- Runs of numerals are runs of letters that stand for numbers. -/
  runsApart : apart ((runs.map bounds).filter fun b => !within letterNumberRanges b.1 b.2)
    numeralRanges = true
  runsSorted : isSortedFrom 0 ((runs.map bounds).filter fun b =>
    !within letterNumberRanges b.1 b.2) = true

theorem upper_tables : CaseTables upperExpansions upperRuns where
  spelled := by decide +kernel
  lettered := by decide +kernel
  expansionsApart := by decide +kernel
  expansionsSorted := by decide +kernel
  runsApart := by decide +kernel
  runsSorted := by decide +kernel

theorem lower_tables : CaseTables lowerExpansions lowerRuns where
  spelled := by decide +kernel
  lettered := by decide +kernel
  expansionsApart := by decide +kernel
  expansionsSorted := by decide +kernel
  runsApart := by decide +kernel
  runsSorted := by decide +kernel

/-! ### Code points -/

theorem covers_of_within_self {table : List (Nat × Nat)} (sorted : isSortedFrom 0 table = true)
    {n : Nat} (h : within table n n = true) : covers table n = true :=
  covers_of_within sorted h (Nat.le_refl n) (Nat.le_refl n)

/-- A point of a run is one of the points that are the step apart from each other. -/
theorem exists_of_contains {r : CaseRun} {n : Nat} (h : r.contains n = true) :
    ∃ i < (r.last - r.first) / r.step + 1, n = r.first + i * r.step := by
  obtain ⟨hfirst, hlast⟩ := between_of_contains h
  simp only [CaseRun.contains, Bool.and_eq_true, beq_iff_eq] at h
  refine ⟨(n - r.first) / r.step, ?_, ?_⟩
  · exact Nat.lt_succ_of_le (Nat.div_le_div_right (by omega))
  · rw [Nat.div_mul_cancel (Nat.dvd_of_mod_eq_zero h.2)]
    omega

/-- The counterparts of a run lie between those of its first and of its last point. -/
theorem between_counterparts {r : CaseRun} {n : Nat} (hn : r.contains n = true) :
    counterpart r r.first ≤ counterpart r n ∧ counterpart r n ≤ counterpart r r.last := by
  obtain ⟨hfirst, hlast⟩ := between_of_contains hn
  exact ⟨Int.toNat_le_toNat (by omega), Int.toNat_le_toNat (by omega)⟩

theorem covers_counterpart {table : List (Nat × Nat)} (sorted : isSortedFrom 0 table = true)
    {r : CaseRun} {n : Nat} (h : mapsInto table r = true) (hn : r.contains n = true) :
    covers table (counterpart r n) = true :=
  covers_of_within sorted h (between_counterparts hn).1 (between_counterparts hn).2

theorem not_covers_of_foreign {table : List (Nat × Nat)} (sorted : isSortedFrom 0 table = true)
    {r : CaseRun} {n : Nat} (h : apart [bounds r] table = true) (hn : r.contains n = true) :
    covers table n = false := by
  obtain ⟨hfirst, hlast⟩ := between_of_contains hn
  have hsorted : isSortedFrom 0 [bounds r] = true := by simp [isSortedFrom]
  refine not_covers_of_apart hsorted sorted h ?_
  exact (covers_eq_true_iff hsorted n).mpr ⟨bounds r, List.mem_cons_self, hfirst, hlast⟩

section Tables
variable {expansions : List (Nat × List Nat)} {runs : List CaseRun}

/-- The counterpart of a letter, a numeral or a mark is a letter, or stands for a number. -/
theorem CaseTables.counterpart_letter (h : CaseTables expansions runs) {r : CaseRun} (hr : r ∈ runs)
    {n : Nat} (hn : r.contains n = true) (hpart : isPart n = true) :
    covers letterRanges (counterpart r n) = true ∨
      covers letterNumberRanges (counterpart r n) = true := by
  have hcases := h.lettered r hr
  rw [Bool.or_eq_true, Bool.or_eq_true, Bool.or_eq_true] at hcases
  rcases hcases with ((hletters | hnumbers) | hforeign) | hstepwise
  · exact .inl (covers_counterpart letterRanges_sorted hletters hn)
  · exact .inr (covers_counterpart letterNumberRanges_sorted hnumbers hn)
  · simp only [isForeign, Bool.and_eq_true] at hforeign
    obtain ⟨⟨hletter, hnumeral⟩, hmark⟩ := hforeign
    simp [isPart, not_covers_of_foreign letterRanges_sorted hletter hn,
      not_covers_of_foreign numeralRanges_sorted hnumeral hn,
      not_covers_of_foreign markRanges_sorted hmark hn] at hpart
  · obtain ⟨i, hi, rfl⟩ := exists_of_contains hn
    have hpoint := List.all_eq_true.mp hstepwise i (List.mem_range.mpr hi)
    exact .inl (covers_of_within_self letterRanges_sorted hpoint)

/-- What a letter, a numeral or a mark becomes in the other case. -/
theorem CaseTables.mapCase_cases (h : CaseTables expansions runs) {n : Nat}
    (hn : isPart n = true) :
    mapCase expansions runs n = [n] ∨ ∃ first rest, mapCase expansions runs n = first :: rest ∧
      (covers letterRanges first = true ∨ covers letterNumberRanges first = true) ∧
      ∀ k ∈ rest, covers letterRanges k = true ∨ covers markRanges k = true := by
  unfold mapCase
  split
  · next several hlookup =>
    obtain ⟨before, after, rfl, _⟩ := List.lookup_eq_some_iff.mp hlookup
    have hspelled := h.spelled (n, several) (by simp)
    cases several with
    | nil => cases hspelled
    | cons first rest =>
      simp only [isSpelled, Bool.and_eq_true, List.all_eq_true, Bool.or_eq_true] at hspelled
      refine .inr ⟨first, rest, rfl, ?_, fun k hk => ?_⟩
      · exact .inl (covers_of_within_self letterRanges_sorted hspelled.1)
      · exact (hspelled.2 k hk).imp (covers_of_within_self letterRanges_sorted)
          (covers_of_within_self markRanges_sorted)
  · split
    · next r hfind =>
      have hcontains := List.find?_some hfind
      refine .inr ⟨counterpart r n, [], rfl, ?_, fun k hk => absurd hk List.not_mem_nil⟩
      exact h.counterpart_letter (List.mem_of_find?_eq_some hfind) hcontains hn
    · exact .inl rfl

/-- A code point that is not among those that become several. -/
theorem lookup_eq_none_of_not_covers
    (sorted : isSortedFrom 0 (expansions.map fun e => (e.1, e.1)) = true) {n : Nat}
    (h : covers (expansions.map fun e => (e.1, e.1)) n = false) : expansions.lookup n = none := by
  refine List.lookup_eq_none_iff.mpr fun e he => bne_iff_ne.mpr fun hn => ?_
  have hmem : (e.1, e.1) ∈ expansions.map fun e => (e.1, e.1) := List.mem_map_of_mem he
  have hcovers := (covers_eq_true_iff sorted n).mpr ⟨_, hmem, Nat.le_of_eq hn.symm, Nat.le_of_eq hn⟩
  rw [h] at hcovers
  cases hcovers

/-- Numerals that are not letters do not change with the case. -/
theorem CaseTables.mapCase_numeral (h : CaseTables expansions runs) {n : Nat}
    (hn : covers numeralRanges n = true) (hletter : covers letterNumberRanges n = false) :
    mapCase expansions runs n = [n] := by
  have hbehind : ∀ {table : List (Nat × Nat)}, isSortedFrom 0 table = true →
      apart table numeralRanges = true → covers table n = false := by
    intro table hsorted hapart
    rw [Bool.eq_false_iff]
    intro hcovers
    rw [not_covers_of_apart hsorted numeralRanges_sorted hapart hcovers] at hn
    cases hn
  have hexpansion := lookup_eq_none_of_not_covers h.expansionsSorted
    (hbehind h.expansionsSorted h.expansionsApart)
  have hrun : runs.find? (·.contains n) = none := by
    refine List.find?_eq_none.mpr fun r hr hcontains => ?_
    have hbetween := between_of_contains hcontains
    cases hinto : within letterNumberRanges r.first r.last with
    | true =>
      rw [covers_of_within letterNumberRanges_sorted hinto hbetween.1 hbetween.2] at hletter
      cases hletter
    | false =>
      have hmem : bounds r ∈ (runs.map bounds).filter fun b => !within letterNumberRanges b.1 b.2 :=
        List.mem_filter.mpr ⟨List.mem_map_of_mem hr, by simp [bounds, hinto]⟩
      have hcovers := (covers_eq_true_iff h.runsSorted n).mpr ⟨bounds r, hmem, hbetween⟩
      rw [hbehind h.runsSorted h.runsApart] at hcovers
      cases hcovers
  rw [mapCase, hexpansion, hrun]

end Tables

/-! ### Characters -/

/-- Whether the ranges of a table are ranges of characters. -/
def isValidTable (table : List (Nat × Nat)) : Bool :=
  table.all fun r => r.2.blt 0xD800 || (Nat.blt 0xDFFF r.1 && r.2.blt 0x110000)

theorem covers_ofNat {table : List (Nat × Nat)} (sorted : isSortedFrom 0 table = true)
    (valid : isValidTable table = true) {n : Nat} (h : covers table n = true) :
    covers table (Char.ofNat n).toNat = true := by
  obtain ⟨r, hr, hfirst, hlast⟩ := (covers_eq_true_iff sorted n).mp h
  have hrange := List.all_eq_true.mp valid r hr
  simp only [Bool.or_eq_true, Bool.and_eq_true, Nat.blt_eq] at hrange
  have hchar : n.isValidChar := by
    show n < 0xD800 ∨ (0xDFFF < n ∧ n < 0x110000)
    omega
  rwa [toNat_ofNat hchar]

/-- What a character may become in the other case, if it is a letter, a numeral or a mark. -/
structure CaseForm (c : Char) (form : List Char) : Prop where
  cases : isPart c.toNat = true → form = [c] ∨ ∃ first rest, form = first :: rest ∧
    (isLetter first = true ∨ isLetterNumber first = true) ∧
    ∀ d ∈ rest, isLetter d = true ∨ isMark d = true
  numeral : isNumeral c = true → isLetterNumber c = false → form = [c]

theorem CaseTables.caseForm {expansions : List (Nat × List Nat)} {runs : List CaseRun}
    (h : CaseTables expansions runs) (c : Char) :
    CaseForm c ((mapCase expansions runs c.toNat).map Char.ofNat) := by
  have hself : ([c.toNat].map Char.ofNat) = [c] := by simp
  have hletter : ∀ {k}, covers letterRanges k = true → isLetter (Char.ofNat k) = true :=
    covers_ofNat letterRanges_sorted (by decide +kernel)
  have hnumber : ∀ {k}, covers letterNumberRanges k = true → isLetterNumber (Char.ofNat k) = true :=
    covers_ofNat letterNumberRanges_sorted (by decide +kernel)
  have hmark : ∀ {k}, covers markRanges k = true → isMark (Char.ofNat k) = true :=
    covers_ofNat markRanges_sorted (by decide +kernel)
  refine ⟨fun hpart => ?_, fun hn hother => ?_⟩
  · rcases h.mapCase_cases hpart with hsame | ⟨first, rest, hform, hfirst, hrest⟩
    · exact .inl (hsame ▸ hself)
    · refine .inr ⟨Char.ofNat first, rest.map Char.ofNat, by rw [hform]; rfl, ?_, fun d hd => ?_⟩
      · exact hfirst.imp hletter hnumber
      · obtain ⟨k, hk, rfl⟩ := List.mem_map.mp hd
        exact (hrest k hk).imp hletter hmark
  · rw [h.mapCase_numeral hn hother, hself]

theorem upper_caseForm (c : Char) : CaseForm c (upper c) := upper_tables.caseForm c

theorem lower_caseForm (c : Char) : CaseForm c (lower c) := lower_tables.caseForm c

end CrossBrowser.Naming
