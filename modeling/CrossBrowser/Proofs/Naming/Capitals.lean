import CrossBrowser.Proofs.Naming.Identifiers

/-! What a name tells of the text it was made from.

Of the words of a text only the first characters are put in upper case, and where a word begins
cannot be seen in a name. But upper case is final: what a character becomes does not change when it
is put in upper case again (`upper_upper`). So a name in upper case is the letters and numerals of
the text in upper case, and texts with the same name have the same of them
(`capitals_of_methodName`).

That upper case is final is read off the tables, run by run: the counterparts of a run are points of
no run, and not among the characters that become several (`isFinal`). -/
namespace CrossBrowser.Naming
open Text

/-! ### The tables -/

/-- A code point as a run of its own, which does not change. -/
def single (n : Nat) : CaseRun := ⟨n, n, 1, 0⟩

/-- Whether the counterparts of one run lie between the points of another, which are every second
code point. -/
def alternates (r s : CaseRun) : Bool :=
  s.step.beq 2 && (r.step.beq 2 || r.first.beq r.last) && Nat.blt 0 (counterpart r r.first) &&
    ((counterpart r r.first + s.first) % 2).beq 1

/-- Whether no counterpart of a run is a point of other runs. As these are sorted, all of them from
one on come after the counterparts. -/
def misses (r : CaseRun) : List CaseRun → Bool
  | [] => true
  | s :: rest =>
    bif s.last.blt (counterpart r r.first) then misses r rest
    else bif (counterpart r r.last).blt s.first then true
    else alternates r s && misses r rest

/-- Whether the counterparts of a run do not change any more. -/
def isFinal (expansions : List (Nat × List Nat)) (runs : List CaseRun) (r : CaseRun) : Bool :=
  misses r runs &&
    apart [(counterpart r r.first, counterpart r r.last)] (expansions.map fun e => (e.1, e.1))

/-- The tables of a case mapping after which nothing changes any more. -/
structure FinalTables (expansions : List (Nat × List Nat)) (runs : List CaseRun) : Prop where
  expansionsSorted : isSortedFrom 0 (expansions.map fun e => (e.1, e.1)) = true
  runsSorted : isSortedFrom 0 (runs.map bounds) = true
  expansionsFinal : ∀ e ∈ expansions, ∀ k ∈ e.2, isFinal expansions runs (single k) = true
  runsFinal : ∀ r ∈ runs, isFinal expansions runs r = true

theorem upper_final : FinalTables upperExpansions upperRuns where
  expansionsSorted := by decide +kernel
  runsSorted := by decide +kernel
  expansionsFinal := by decide +kernel
  runsFinal := by decide +kernel

/-! ### Code points -/

theorem contains_single (n : Nat) : (single n).contains n = true := by
  simp [single, CaseRun.contains]

theorem counterpart_single (n : Nat) : counterpart (single n) n = n := by
  simp [single, counterpart]

theorem not_contains_of_alternates {r s : CaseRun} (h : alternates r s = true) {n : Nat}
    (hn : r.contains n = true) : s.contains (counterpart r n) = false := by
  simp only [alternates, Bool.and_eq_true, Bool.or_eq_true, Nat.beq_eq, Nat.blt_eq] at h
  obtain ⟨⟨⟨hstep, hsteps⟩, hpositive⟩, hodd⟩ := h
  -- The points of the run are an even number apart, and so are their counterparts.
  have heven : (n - r.first) % 2 = 0 := by
    obtain ⟨hfirst, hlast⟩ := between_of_contains hn
    rcases hsteps with htwo | hsame
    · simp only [CaseRun.contains, htwo, Bool.and_eq_true, beq_iff_eq] at hn
      exact hn.2
    · omega
  have hfirst := (between_of_contains hn).1
  rw [Bool.eq_false_iff]
  intro hs
  simp only [CaseRun.contains, hstep, Bool.and_eq_true, decide_eq_true_eq, beq_iff_eq] at hs
  unfold counterpart at hpositive hodd hs
  omega

theorem not_contains_of_misses {r : CaseRun} {runs : List CaseRun}
    (sorted : (runs.map bounds).Pairwise fun a b => a.1 ≤ b.1) (h : misses r runs = true) {n : Nat}
    (hn : r.contains n = true) : ∀ s ∈ runs, s.contains (counterpart r n) = false := by
  obtain ⟨hlow, hhigh⟩ := between_counterparts hn
  induction runs with
  | nil => simp
  | cons s rest ih =>
    rw [List.map_cons, List.pairwise_cons] at sorted
    have houtside : ∀ t : CaseRun, (t.last < counterpart r n ∨ counterpart r n < t.first) →
        t.contains (counterpart r n) = false := by
      intro t ht
      rw [Bool.eq_false_iff]
      intro hcontains
      have := between_of_contains hcontains
      omega
    rw [misses] at h
    cases hbefore : s.last.blt (counterpart r r.first) with
    | true =>
      rw [hbefore, cond_true] at h
      rw [Nat.blt_eq] at hbefore
      exact List.forall_mem_cons.mpr ⟨houtside s (.inl (by omega)), ih sorted.2 h⟩
    | false =>
      rw [hbefore, cond_false] at h
      cases hafter : (counterpart r r.last).blt s.first with
      | true =>
        rw [Nat.blt_eq] at hafter
        refine List.forall_mem_cons.mpr ⟨houtside s (.inr (by omega)), fun t ht => ?_⟩
        have hle : s.first ≤ t.first := sorted.1 (bounds t) (List.mem_map_of_mem ht)
        exact houtside t (.inr (by omega))
      | false =>
        rw [hafter, cond_false, Bool.and_eq_true] at h
        exact List.forall_mem_cons.mpr ⟨not_contains_of_alternates h.1 hn, ih sorted.2 h.2⟩

section Tables
variable {expansions : List (Nat × List Nat)} {runs : List CaseRun}

/-- The counterparts of a run that is final do not change. -/
theorem FinalTables.mapCase_counterpart (h : FinalTables expansions runs) {r : CaseRun}
    (hr : isFinal expansions runs r = true) {n : Nat} (hn : r.contains n = true) :
    mapCase expansions runs (counterpart r n) = [counterpart r n] := by
  rw [isFinal, Bool.and_eq_true] at hr
  have hsorted : isSortedFrom 0 [(counterpart r r.first, counterpart r r.last)] = true := by
    simp [isSortedFrom]
  have hcovers : covers [(counterpart r r.first, counterpart r r.last)] (counterpart r n) = true :=
    (covers_eq_true_iff hsorted _).mpr ⟨_, List.mem_singleton_self _, between_counterparts hn⟩
  have hexpansion := lookup_eq_none_of_not_covers h.expansionsSorted
    (not_covers_of_apart hsorted h.expansionsSorted hr.2 hcovers)
  have hrun : runs.find? (·.contains (counterpart r n)) = none := by
    refine List.find?_eq_none.mpr fun s hs => Bool.eq_false_iff.mp ?_
    exact not_contains_of_misses (pairwise_of_isSortedFrom h.runsSorted) hr.1 hn s hs
  rw [mapCase, hexpansion, hrun]

/-- What a code point becomes does not change any more. -/
theorem FinalTables.mapCase_mapCase (h : FinalTables expansions runs) (n : Nat) :
    ∀ k ∈ mapCase expansions runs n, mapCase expansions runs k = [k] := by
  intro k hk
  cases hexpansion : expansions.lookup n with
  | some several =>
    rw [mapCase, hexpansion] at hk
    obtain ⟨before, after, hsplit, _⟩ := List.lookup_eq_some_iff.mp hexpansion
    have hfinal := h.expansionsFinal (n, several) (hsplit ▸ by simp) k hk
    have hsame := h.mapCase_counterpart hfinal (contains_single k)
    rwa [counterpart_single] at hsame
  | none =>
    cases hrun : runs.find? (·.contains n) with
    | some r =>
      rw [mapCase, hexpansion, hrun] at hk
      rw [List.mem_singleton.mp hk]
      have hcontains := List.find?_some hrun
      exact h.mapCase_counterpart (h.runsFinal r (List.mem_of_find?_eq_some hrun)) hcontains
    | none =>
      rw [mapCase, hexpansion, hrun] at hk
      rw [List.mem_singleton.mp hk, mapCase, hexpansion, hrun]

end Tables

/-! ### Characters -/

/-- **Upper case is final.** What a character of a word becomes in upper case is in upper case. -/
theorem upper_upper {c d : Char} (hc : inWord c = true) (hd : d ∈ upper c) : upper d = [d] := by
  have hwordlike := inNames_wordlike.upper c (wordlike_inWord hc) d hd
  obtain ⟨k, hk, rfl⟩ := List.mem_map.mp hd
  have hchar : (Char.ofNat k).toNat = k := by
    by_cases hvalid : k.isValidChar
    · exact toNat_ofNat hvalid
    · rw [Char.ofNat, dif_neg hvalid] at hwordlike
      exact absurd hwordlike (by decide)
  rw [upper, hchar, upper_final.mapCase_mapCase c.toNat k hk]
  rfl

theorem flatMap_upper_upper {c : Char} (hc : inWord c = true) :
    (upper c).flatMap upper = upper c := by
  rw [List.flatMap_congr fun d hd => upper_upper hc hd, List.flatMap_singleton']

/-! ### Names -/

/-- The letters and numerals of a text, in upper case. -/
def capitals (text : String) : List Char := (text.toList.filter inWord).flatMap upper

theorem flatMap_upper_capitalize {word : List Char} (h : ∀ c ∈ word, inWord c = true) :
    (capitalize word).flatMap upper = word.flatMap upper := by
  cases word with
  | nil => rfl
  | cons c rest =>
    rw [capitalize, List.flatMap_append, flatMap_upper_upper (h c List.mem_cons_self),
      List.flatMap_cons]

/-- Words that are run together are in upper case what the text is. -/
theorem flatMap_upper_joinedWords (text : String) :
    (joinedWords text).flatMap upper = capitals text := by
  rw [joinedWords, List.flatMap_assoc, capitals, ← flatten_words, ← List.flatMap_id,
    List.flatMap_assoc]
  apply List.flatMap_congr
  intro word hword
  exact flatMap_upper_capitalize (inWord_of_mem_words hword)

/-- A name without the underscore in front, if it has one. -/
def unguarded : List Char → List Char
  | [] => []
  | c :: rest => if c = '_' then rest else c :: rest

theorem unguarded_guardStart {cs : List Char} (h : BeginsWord cs) :
    unguarded (guardStart cs) = cs := by
  cases cs with
  | nil => rfl
  | cons c rest =>
    have hletter : c ≠ '_' := by
      intro hunderscore
      have hword := h c rfl
      rw [hunderscore] at hword
      exact absurd hword (by decide +kernel)
    by_cases hnumeral : isNumeral c = true
    · simp [guardStart, hnumeral, unguarded]
    · simp [guardStart, hnumeral, unguarded, hletter]

/-- Texts that lead to one name are the same when their words are run together. -/
theorem joinedWords_of_methodName {title title' : String}
    (h : methodName title = methodName title') : joinedWords title = joinedWords title' := by
  have hguarded : guardStart (joinedWords title) = guardStart (joinedWords title') := by
    simpa [methodName, pascal] using congrArg String.toList h
  have hunguarded := congrArg unguarded hguarded
  rwa [unguarded_guardStart (beginsWord_joinedWords title),
    unguarded_guardStart (beginsWord_joinedWords title')] at hunguarded

theorem capitals_of_methodName {title title' : String} (h : methodName title = methodName title') :
    capitals title = capitals title' := by
  rw [← flatMap_upper_joinedWords, joinedWords_of_methodName h, flatMap_upper_joinedWords]

end CrossBrowser.Naming
