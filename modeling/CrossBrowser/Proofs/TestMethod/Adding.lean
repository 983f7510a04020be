import CrossBrowser.Proofs.TestMethod.Cases

/-! Adding cases for browsers one after the other, and adding them again.

Of several cases that pass the same arguments the last one stays, where the first one went. So a
case can be moved past those with other arguments as long as its arguments are passed already
(`replaceOrAppend_comm`), and goes without a trace when one with the same arguments follows
(`replaceOrAppend_absorb`). From this it follows that adding all of some cases a second time changes
nothing (`addForBrowsers_twice`). -/
namespace CrossBrowser.TestMethod

/-- Adds cases for browsers, one after the other. -/
def addForBrowsers (cases new : List TestCase) : List TestCase :=
  new.foldl (fun cases c => replaceOrAppend c cases) cases

theorem addForBrowsers_cons (cases : List TestCase) (c : TestCase) (new : List TestCase) :
    addForBrowsers cases (c :: new) = addForBrowsers (replaceOrAppend c cases) new := rfl

theorem addForBrowsers_append (cases new new' : List TestCase) :
    addForBrowsers cases (new ++ new') = addForBrowsers (addForBrowsers cases new) new' :=
  List.foldl_append

theorem foldl_addCase (cases new : List TestCase) (h : ∀ c ∈ new, c.origin ≠ .row) :
    new.foldl addCase cases = addForBrowsers cases new := by
  induction new generalizing cases with
  | nil => rfl
  | cons c rest ih =>
    rw [List.foldl_cons, addCase, if_neg (h c List.mem_cons_self),
      ih _ fun d hd => h d (List.mem_cons_of_mem c hd), addForBrowsers_cons]

theorem mem_replaceOrAppend (new : TestCase) (cases : List TestCase) (c : TestCase)
    (h : c ∈ replaceOrAppend new cases) : c = new ∨ c ∈ cases := by
  induction cases with
  | nil => exact .inl (List.mem_singleton.mp h)
  | cons old rest ih =>
    rw [replaceOrAppend] at h
    split at h
    · exact (List.mem_cons.mp h).imp_right (List.mem_cons_of_mem old)
    · rcases List.mem_cons.mp h with rfl | h
      · exact .inr List.mem_cons_self
      · exact (ih h).imp_right (List.mem_cons_of_mem old)

/-- Nothing else is there than what was, or was added. -/
theorem mem_addForBrowsers (cases new : List TestCase) (c : TestCase)
    (h : c ∈ addForBrowsers cases new) : c ∈ cases ∨ c ∈ new := by
  induction new generalizing cases with
  | nil => exact .inl h
  | cons first rest ih =>
    rcases ih _ h with h | h
    · rcases mem_replaceOrAppend first cases c h with rfl | h
      · exact .inr List.mem_cons_self
      · exact .inl h
    · exact .inr (List.mem_cons_of_mem first h)

/-! ### Two cases -/

theorem supersedes_congr (new new' old : TestCase) (h : new.arguments = new'.arguments) :
    supersedes new old = supersedes new' old := by
  rw [supersedes, supersedes, h]

/-- A case goes without a trace when one with the same arguments follows. -/
theorem replaceOrAppend_absorb (new new' : TestCase) (hnew : new.origin ≠ .row)
    (h : new.arguments = new'.arguments) (cases : List TestCase) :
    replaceOrAppend new' (replaceOrAppend new cases) = replaceOrAppend new' cases := by
  have hself : supersedes new' new = true := (supersedes_iff new' new).mpr ⟨hnew, h⟩
  induction cases with
  | nil => exact replaceOrAppend_superseding new' new [] hself
  | cons old rest ih =>
    rw [replaceOrAppend]
    by_cases hold : supersedes new old = true
    · have hold' : supersedes new' old = true := supersedes_congr new new' old h ▸ hold
      rw [if_pos hold, replaceOrAppend_superseding _ _ _ hself,
        replaceOrAppend_superseding _ _ _ hold']
    · have hold' : ¬supersedes new' old = true := supersedes_congr new new' old h ▸ hold
      rw [if_neg hold, replaceOrAppend, replaceOrAppend, if_neg hold', if_neg hold', ih]

theorem mem_browserArguments_cons (old : TestCase) (rest : List TestCase)
    (arguments : List Literal) :
    arguments ∈ browserArguments (old :: rest) ↔
      (old.origin ≠ .row ∧ old.arguments = arguments) ∨ arguments ∈ browserArguments rest := by
  by_cases hold : old.origin = .row
  · rw [browserArguments_cons_row old hold, or_iff_right fun h => h.1 hold]
  · rw [browserArguments_cons_browser old hold, List.mem_cons, and_iff_right hold, eq_comm]

/-- A case that takes another's place can be added before or after one with other arguments. -/
theorem replaceOrAppend_comm (new new' : TestCase) (h : new.arguments ≠ new'.arguments)
    (cases : List TestCase) (hmem : new.arguments ∈ browserArguments cases) :
    replaceOrAppend new' (replaceOrAppend new cases) =
      replaceOrAppend new (replaceOrAppend new' cases) := by
  have hapart : ¬supersedes new' new = true := fun hs => h ((supersedes_iff new' new).mp hs).2
  have hapart' : ¬supersedes new new' = true :=
    fun hs => h ((supersedes_iff new new').mp hs).2.symm
  induction cases with
  | nil => cases hmem
  | cons old rest ih =>
    rw [replaceOrAppend, replaceOrAppend]
    by_cases hold : supersedes new old = true
    · have hold' : ¬supersedes new' old = true := fun hs =>
        h (((supersedes_iff new old).mp hold).2.symm.trans ((supersedes_iff new' old).mp hs).2)
      rw [if_pos hold, if_neg hold', replaceOrAppend, if_neg hapart,
        replaceOrAppend_superseding _ _ _ hold]
    · rw [if_neg hold, replaceOrAppend]
      by_cases hold' : supersedes new' old = true
      · rw [if_pos hold', if_pos hold', replaceOrAppend, if_neg hapart']
      · have hrest : new.arguments ∈ browserArguments rest :=
          ((mem_browserArguments_cons old rest _).mp hmem).resolve_left
            fun hs => hold ((supersedes_iff new old).mpr hs)
        rw [if_neg hold', if_neg hold', replaceOrAppend, if_neg hold, ih hrest]

/-! ### Blocks of cases -/

section
variable {α : Type} (new old : α → TestCase) (todo : List α)

/-- What is left to do supersedes nothing among the cases that have been gone past and the case that
has just been added. -/
theorem not_supersedes_concat (x : α) (hx : x ∉ todo)
    (hself : ∀ y ∈ x :: todo, ∀ z ∈ x :: todo, supersedes (new y) (new z) = true → y = z)
    (cases : List TestCase) (hcases : ∀ y ∈ x :: todo, ∀ c ∈ cases, supersedes (new y) c = false) :
    ∀ y ∈ todo, ∀ c ∈ cases ++ [new x], supersedes (new y) c = false := by
  intro y hy c hc
  have hy' := List.mem_cons_of_mem x hy
  rcases List.mem_append.mp hc with hc | hc
  · exact hcases y hy' c hc
  · rw [List.mem_singleton.mp hc]
    refine Bool.eq_false_iff.mpr fun h => hx ?_
    exact hself y hy' x List.mem_cons_self h ▸ hy

/-- Cases that supersede neither what is there nor each other go to the end. -/
theorem addForBrowsers_new (hnodup : todo.Nodup)
    (hself : ∀ x ∈ todo, ∀ y ∈ todo, supersedes (new x) (new y) = true → x = y)
    (cases : List TestCase) (hcases : ∀ x ∈ todo, ∀ c ∈ cases, supersedes (new x) c = false) :
    addForBrowsers cases (todo.map new) = cases ++ todo.map new := by
  induction todo generalizing cases with
  | nil => exact (List.append_nil cases).symm
  | cons x rest ih =>
    obtain ⟨hx, hrest⟩ := List.nodup_cons.mp hnodup
    rw [List.map_cons, addForBrowsers_cons,
      replaceOrAppend_new _ _ (hcases x List.mem_cons_self),
      ih hrest (fun y hy z hz => hself y (List.mem_cons_of_mem x hy) z (List.mem_cons_of_mem x hz))
        _ (not_supersedes_concat new rest x hx hself cases hcases),
      List.append_assoc, List.singleton_append]

/-- Cases that supersede one after the other those of a block take the place of the block. -/
theorem addForBrowsers_block (hnodup : todo.Nodup)
    (hself : ∀ x ∈ todo, ∀ y ∈ todo, supersedes (new x) (new y) = true → x = y)
    (hold : ∀ x ∈ todo, supersedes (new x) (old x) = true) (before after : List TestCase)
    (hbefore : ∀ x ∈ todo, ∀ c ∈ before, supersedes (new x) c = false) :
    addForBrowsers (before ++ (todo.map old ++ after)) (todo.map new) =
      before ++ (todo.map new ++ after) := by
  induction todo generalizing before with
  | nil => rfl
  | cons x rest ih =>
    obtain ⟨hx, hrest⟩ := List.nodup_cons.mp hnodup
    have step : replaceOrAppend (new x) (before ++ ((x :: rest).map old ++ after)) =
        (before ++ [new x]) ++ (rest.map old ++ after) := by
      rw [replaceOrAppend_append _ _ _ (hbefore x List.mem_cons_self), List.map_cons,
        List.cons_append, replaceOrAppend_superseding _ _ _ (hold x List.mem_cons_self),
        List.append_assoc, List.singleton_append]
    show addForBrowsers (replaceOrAppend (new x) _) (rest.map new) =
      before ++ (new x :: (rest.map new ++ after))
    rw [step,
      ih hrest (fun y hy z hz => hself y (List.mem_cons_of_mem x hy) z (List.mem_cons_of_mem x hz))
        (fun y hy => hold y (List.mem_cons_of_mem x hy)) _
        (not_supersedes_concat new rest x hx hself before hbefore),
      List.append_assoc, List.singleton_append]

end

/-! ### One case among many -/

theorem mem_browserArguments_replaceOrAppend (new : TestCase) (hnew : new.origin ≠ .row)
    (cases : List TestCase) (arguments : List Literal) :
    arguments ∈ browserArguments (replaceOrAppend new cases) ↔
      arguments = new.arguments ∨ arguments ∈ browserArguments cases := by
  rw [browserArguments_replaceOrAppend new hnew]
  split
  · next hmem =>
    refine ⟨.inr, fun h => h.elim (fun he => he ▸ hmem) id⟩
  · rw [List.mem_append, List.mem_singleton, or_comm]

section
variable {new : List TestCase} (hnew : ∀ c ∈ new, c.origin ≠ .row)
include hnew

/-- A case that takes another's place can be added before or after cases with other arguments. -/
theorem addForBrowsers_comm (c : TestCase) (hapart : c.arguments ∉ new.map (·.arguments))
    (cases : List TestCase) (hmem : c.arguments ∈ browserArguments cases) :
    addForBrowsers (replaceOrAppend c cases) new =
      replaceOrAppend c (addForBrowsers cases new) := by
  induction new generalizing cases with
  | nil => rfl
  | cons first rest ih =>
    have hfirst := hnew first List.mem_cons_self
    obtain ⟨hne, hrest⟩ := not_or.mp fun h => hapart (List.mem_cons.mpr h)
    rw [addForBrowsers_cons, addForBrowsers_cons, replaceOrAppend_comm c first hne cases hmem]
    refine ih (fun d hd => hnew d (List.mem_cons_of_mem first hd)) hrest _ ?_
    exact (mem_browserArguments_replaceOrAppend first hfirst cases _).mpr (.inr hmem)

/-- A case that takes another's place goes without a trace when one with the same arguments is among
those that follow. -/
theorem addForBrowsers_absorb (c : TestCase) (hc : c.origin ≠ .row)
    (hsame : c.arguments ∈ new.map (·.arguments)) (cases : List TestCase)
    (hmem : c.arguments ∈ browserArguments cases) :
    addForBrowsers (replaceOrAppend c cases) new = addForBrowsers cases new := by
  induction new generalizing cases with
  | nil => cases hsame
  | cons first rest ih =>
    have hfirst := hnew first List.mem_cons_self
    rw [addForBrowsers_cons, addForBrowsers_cons]
    by_cases he : c.arguments = first.arguments
    · rw [replaceOrAppend_absorb c first hc he]
    · rw [replaceOrAppend_comm c first he cases hmem]
      refine ih (fun d hd => hnew d (List.mem_cons_of_mem first hd)) ?_ _ ?_
      · exact (List.mem_cons.mp hsame).resolve_left he
      · exact (mem_browserArguments_replaceOrAppend first hfirst cases _).mpr (.inr hmem)

/-- A case that has been added stays as it is while cases with other arguments are added. -/
theorem replaceOrAppend_addForBrowsers (c : TestCase) (hc : c.origin ≠ .row)
    (hapart : c.arguments ∉ new.map (·.arguments)) (cases : List TestCase) :
    replaceOrAppend c (addForBrowsers (replaceOrAppend c cases) new) =
      addForBrowsers (replaceOrAppend c cases) new := by
  have hmem : c.arguments ∈ browserArguments (replaceOrAppend c cases) :=
    (mem_browserArguments_replaceOrAppend c hc cases _).mpr (.inl rfl)
  rw [← addForBrowsers_comm hnew c hapart _ hmem, replaceOrAppend_absorb c c hc rfl]

/-- A case that has been added is there if all cases with its arguments were the same. -/
theorem replaceOrAppend_of_mem (c : TestCase) (hmem : c ∈ new)
    (hunique : ∀ d ∈ new, d.arguments = c.arguments → d = c) (cases : List TestCase) :
    replaceOrAppend c (addForBrowsers cases new) = addForBrowsers cases new := by
  induction new generalizing cases with
  | nil => cases hmem
  | cons first rest ih =>
    have hrest : ∀ d ∈ rest, d.origin ≠ .row := fun d hd => hnew d (List.mem_cons_of_mem first hd)
    have hunique' : ∀ d ∈ rest, d.arguments = c.arguments → d = c :=
      fun d hd => hunique d (List.mem_cons_of_mem first hd)
    by_cases hc : c ∈ rest
    · exact ih hrest hc hunique' (replaceOrAppend first cases)
    · obtain rfl : c = first := (List.mem_cons.mp hmem).resolve_right hc
      refine replaceOrAppend_addForBrowsers hrest c (hnew c List.mem_cons_self) ?_ cases
      intro harguments
      obtain ⟨d, hd, he⟩ := List.mem_map.mp harguments
      exact hc (hunique' d hd he ▸ hd)

theorem mem_browserArguments_addForBrowsers (cases : List TestCase) (arguments : List Literal)
    (h : arguments ∈ browserArguments cases) :
    arguments ∈ browserArguments (addForBrowsers cases new) := by
  induction new generalizing cases with
  | nil => exact h
  | cons first rest ih =>
    refine ih (fun d hd => hnew d (List.mem_cons_of_mem first hd)) (replaceOrAppend first cases) ?_
    exact (mem_browserArguments_replaceOrAppend first (hnew first List.mem_cons_self) cases _).mpr
      (.inr h)

/-! ### All cases again -/

/-- Cases for browsers that are all added a second time change nothing, though on the way each one
takes the place of what was left there the first time. -/
theorem addForBrowsers_twice (cases : List TestCase) :
    addForBrowsers (addForBrowsers cases new) new = addForBrowsers cases new := by
  induction new generalizing cases with
  | nil => rfl
  | cons first rest ih =>
    have hfirst := hnew first List.mem_cons_self
    have hrest : ∀ d ∈ rest, d.origin ≠ .row := fun d hd => hnew d (List.mem_cons_of_mem first hd)
    have hmem : first.arguments ∈ browserArguments
        (addForBrowsers (replaceOrAppend first cases) rest) :=
      mem_browserArguments_addForBrowsers hrest _ _
        ((mem_browserArguments_replaceOrAppend first hfirst cases _).mpr (.inl rfl))
    rw [addForBrowsers_cons, addForBrowsers_cons]
    by_cases h : first.arguments ∈ rest.map (·.arguments)
    · rw [addForBrowsers_absorb hrest first hfirst h _ hmem, ih hrest]
    · rw [replaceOrAppend_addForBrowsers hrest first hfirst h, ih hrest]

end
end CrossBrowser.TestMethod
