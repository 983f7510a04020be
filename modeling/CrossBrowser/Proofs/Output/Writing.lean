import CrossBrowser.Command.Run
import CrossBrowser.Proofs.FileTree.Changing
import CrossBrowser.Proofs.Output.Contents

/-! What a run of writing leaves.

Files are written one after the other. Each write changes the file at one place and no other, so
after a run each place has what was last written there (`writeFiles_written`), and a file is found up
to date exactly if the last file written to its place has the same contents (`check_iff`). -/
namespace CrossBrowser
open FileTree

namespace GeneratedFile

/-- Where a generated file lies. -/
def place (t : FileTree) (g : GeneratedFile) : Location :=
  placeOf t.workingDirectory g.output.components

/-! ### One file -/

theorem writes_of_adds {t u v : FileTree} {l : Location} {contents : ByteArray}
    (h₁ : t.AddsDirectories u) (h₂ : u.Writes l contents v) : t.Writes l contents v :=
  ⟨h₁.grows.trans h₂.grows, h₂.written, fun k hk => (h₂.kept k hk).trans (h₁.contents k),
    fun hw => h₂.wellFormed (h₁.wellFormed hw)⟩

/-- The tree in which the directories for a generated file have been made, and whether they are
there. -/
def prepared (t : FileTree) (g : GeneratedFile) : FileTree × Bool :=
  if (g.output.parent?.getD ⟨""⟩).text = "" then (t, true)
  else t.makeDirectories (g.output.parent?.getD ⟨""⟩)

theorem prepared_adds (t : FileTree) (hw : t.WellFormed) (g : GeneratedFile) :
    t.AddsDirectories (prepared t g).1 := by
  unfold prepared
  split
  · exact .refl t
  · exact makeDirectories_adds t hw _

/-- Writing succeeds exactly if the directories are there then and the file can be written into the
prepared tree. -/
theorem write_eq_ok_iff (t v : FileTree) (g : GeneratedFile) :
    g.write t = (v, .ok ()) ↔
      (prepared t g).2 = true ∧
        (prepared t g).1.write? g.output (Text.encodeUtf8 g.contents) = some v := by
  rcases hprepared : prepared t g with ⟨u, made⟩
  unfold prepared at hprepared
  unfold write
  simp only [hprepared]
  cases made with
  | false => simp
  | true => cases u.write? g.output (Text.encodeUtf8 g.contents) <;> simp

/-- A file that has been written lies in its place, and nothing else has changed. -/
theorem write_ok (t : FileTree) (hw : t.WellFormed) (g : GeneratedFile)
    (h : (g.write t).2 = .ok ()) :
    t.Writes (g.place t) (Text.encodeUtf8 g.contents) (g.write t).1 ∧
      (g.write t).1.locate? g.output = some (g.place t) := by
  have hadds := prepared_adds t hw g
  obtain ⟨l, hlocate, hwrites⟩ :=
    write?_spec _ _ (hadds.wellFormed hw) _ _ ((write_eq_ok_iff t _ g).mp (Prod.ext rfl h)).2
  obtain rfl : l = g.place t := by
    rw [place, ← hadds.grows.workingDirectory]
    exact locate?_eq _ g.output l hlocate
  exact ⟨writes_of_adds hadds hwrites, hwrites.grows.locate? _ _ hlocate⟩

/-! ### A run -/

/-- The last of some files that are generated into a place. -/
def lastAt? (t : FileTree) (files : List GeneratedFile) (l : Location) : Option GeneratedFile :=
  (files.filter (·.place t = l)).getLast?

/-- A tree after a run of writing: every file is in its place, and each place has what was last
written there, or what was there before. -/
structure Written (files : List GeneratedFile) (t t' : FileTree) : Prop where
  grows : t.Grows t'
  wellFormed : t'.WellFormed
  located : ∀ g ∈ files, t'.locate? g.output = some (g.place t)
  contents : ∀ l, t'.contents? l =
    ((lastAt? t files l).map fun g => Text.encodeUtf8 g.contents).or (t.contents? l)

theorem place_of_grows {t t' : FileTree} (h : t.Grows t') (g : GeneratedFile) :
    g.place t' = g.place t := by
  rw [place, place, h.workingDirectory]

theorem lastAt?_of_grows {t t' : FileTree} (h : t.Grows t') (files : List GeneratedFile)
    (l : Location) : lastAt? t' files l = lastAt? t files l := by
  unfold lastAt?
  simp only [place_of_grows h]

/-- The first file of a run is last at its place if no other is. -/
theorem lastAt?_cons (t : FileTree) (g : GeneratedFile) (rest : List GeneratedFile)
    (l : Location) :
    lastAt? t (g :: rest) l =
      (lastAt? t rest l).or (if g.place t = l then some g else none) := by
  unfold lastAt?
  by_cases h : g.place t = l
  · rw [List.filter_cons_of_pos (by simpa using h), if_pos h, List.getLast?_cons]
    cases (rest.filter (·.place t = l)).getLast? <;> rfl
  · rw [List.filter_cons_of_neg (by simpa using h), if_neg h, Option.or_none]

theorem Written.cons {t u v : FileTree} (g : GeneratedFile) (rest : List GeneratedFile)
    (hwrites : t.Writes (g.place t) (Text.encodeUtf8 g.contents) u)
    (hlocate : u.locate? g.output = some (g.place t)) (h : Written rest u v) :
    Written (g :: rest) t v := by
  refine ⟨hwrites.grows.trans h.grows, h.wellFormed, fun g' hg' => ?_, fun l => ?_⟩
  · rcases List.mem_cons.mp hg' with rfl | hg'
    · exact h.grows.locate? _ _ hlocate
    · rw [h.located g' hg', place_of_grows hwrites.grows]
  · rw [h.contents, lastAt?_of_grows hwrites.grows, lastAt?_cons]
    cases lastAt? t rest l with
    | some last => rfl
    | none =>
      by_cases hl : g.place t = l
      · rw [if_pos hl, ← hl, hwrites.written]
        rfl
      · rw [if_neg hl, hwrites.kept l (Ne.symm hl)]
        rfl

theorem writeFiles_of_write (t : FileTree) (g : GeneratedFile) (rest : List GeneratedFile)
    (result : FileTree × Except Error Unit) :
    g.write t = result → Program.writeFiles t (g :: rest) =
      match result with
      | (u, .error e) => (u, Report.failed e)
      | (u, .ok ()) =>
        ((Program.writeFiles u rest).1,
          (Program.writeFiles u rest).2.after (Output.linesOf [Program.writtenLine g])) := by
  rintro rfl
  rfl

theorem writeFiles_of_ok (t u : FileTree) (g : GeneratedFile) (rest : List GeneratedFile)
    (h : g.write t = (u, .ok ())) :
    Program.writeFiles t (g :: rest) =
      ((Program.writeFiles u rest).1,
        (Program.writeFiles u rest).2.after (Output.linesOf [Program.writtenLine g])) :=
  writeFiles_of_write t g rest _ h

/-- A run without an error has written its first file, and has gone on from there without an
error. -/
theorem writeFiles_cons (t : FileTree) (g : GeneratedFile) (rest : List GeneratedFile)
    (h : (Program.writeFiles t (g :: rest)).2.error? = none) :
    (g.write t).2 = .ok () ∧ (Program.writeFiles (g.write t).1 rest).2.error? = none ∧
      (Program.writeFiles t (g :: rest)).1 = (Program.writeFiles (g.write t).1 rest).1 := by
  cases hok : (g.write t).2 with
  | error e =>
    rw [writeFiles_of_write t g rest (_, .error e) (Prod.ext rfl hok)] at h
    cases h
  | ok done =>
    rw [writeFiles_of_ok t _ g rest (Prod.ext rfl hok)] at h ⊢
    exact ⟨rfl, h, rfl⟩

/-- After a run of writing without an error, each place has what was last written there. -/
theorem writeFiles_written (files : List GeneratedFile) (t : FileTree) (hw : t.WellFormed)
    (h : (Program.writeFiles t files).2.error? = none) :
    Written files t (Program.writeFiles t files).1 := by
  induction files generalizing t with
  | nil => exact ⟨Grows.refl t, hw, fun _ hg => absurd hg List.not_mem_nil, fun _ => rfl⟩
  | cons g rest ih =>
    obtain ⟨hok, hrest, htree⟩ := writeFiles_cons t g rest h
    obtain ⟨hwrites, hlocate⟩ := write_ok t hw g hok
    rw [htree]
    exact Written.cons g rest hwrites hlocate (ih _ (hwrites.wellFormed hw) hrest)

/-! ### Checking -/

theorem lastAt?_eq_none_iff (t : FileTree) (files : List GeneratedFile) (l : Location) :
    lastAt? t files l = none ↔ ∀ g ∈ files, g.place t ≠ l := by
  rw [lastAt?, List.getLast?_eq_none_iff, List.filter_eq_nil_iff]
  simp

theorem mem_of_lastAt? (t : FileTree) (files : List GeneratedFile) (l : Location)
    (g : GeneratedFile) (h : lastAt? t files l = some g) : g ∈ files ∧ g.place t = l := by
  obtain ⟨hmem, hplace⟩ := List.mem_filter.mp (List.mem_of_getLast? h)
  exact ⟨hmem, of_decide_eq_true hplace⟩

/-- A file is found up to date exactly if what was last written to its place is the same. -/
theorem check_iff {files : List GeneratedFile} {t t' : FileTree} (h : Written files t t')
    (g : GeneratedFile) (hg : g ∈ files) :
    g.check t' = .ok .upToDate ↔
      (lastAt? t files (g.place t)).map (·.contents) = some g.contents := by
  cases hlast : lastAt? t files (g.place t) with
  | none => exact absurd rfl ((lastAt?_eq_none_iff _ _ _).mp hlast g hg)
  | some last =>
    have hcontents : t'.contents? (g.place t) = some (Text.encodeUtf8 last.contents) := by
      rw [h.contents, hlast]
      rfl
    have hread : t'.read? g.output = some (Text.encodeUtf8 last.contents) := by
      rw [read?, h.located g hg, Option.bind_some, hcontents]
    have hcontains : t'.contains g.output = true := by
      have hoccupant := (contents?_eq_some_iff _ _ _).mp hcontents
      rw [contains, (find?_eq_some_iff t' g.output (g.place t)).mpr ⟨h.located g hg, ?_⟩]
      · rfl
      · rw [hoccupant]
        rfl
    have htext : t'.readText g.output = .ok last.contents := by
      rw [readText, hread, Option.map_some, Text.decodeUtf8_encodeUtf8]
    have hcheck : g.check t' =
        .ok (if last.contents = g.contents then .upToDate else .stale last.contents) := by
      rw [check, hcontains, htext]
      rfl
    rw [hcheck, Option.map_some]
    by_cases hsame : last.contents = g.contents
    · rw [if_pos hsame, hsame]
      simp
    · rw [if_neg hsame]
      simp [hsame]

/-- Where files at one place differ, a file is up to date exactly if no later one has its place. -/
theorem lastAt?_contents_iff (t : FileTree) (files : List GeneratedFile)
    (hdiffer : files.Pairwise fun g g' => g.place t = g'.place t → g.contents ≠ g'.contents)
    (g : GeneratedFile) (hg : g ∈ files) :
    (lastAt? t files (g.place t)).map (·.contents) = some g.contents ↔
      ∀ g', [g, g'].Sublist files → g.place t ≠ g'.place t := by
  induction files with
  | nil => cases hg
  | cons first rest ih =>
    obtain ⟨hfirst, hrest⟩ := List.pairwise_cons.mp hdiffer
    rw [lastAt?_cons]
    by_cases hmem : g ∈ rest
    · have hne : g ≠ first := by
        rintro rfl
        exact hfirst g hmem rfl rfl
      obtain ⟨last, hlast⟩ := Option.ne_none_iff_exists'.mp
        fun hnone => (lastAt?_eq_none_iff t rest _).mp hnone g hmem rfl
      have hih := ih hrest hmem
      rw [hlast] at hih
      rw [hlast, Option.some_or, hih]
      constructor
      · intro hall g' hsub
        cases hsub with
        | cons _ hsub => exact hall g' hsub
        | cons_cons _ hsub => exact absurd rfl hne
      · exact fun hall g' hsub => hall g' (hsub.cons first)
    · obtain rfl : g = first := (List.mem_cons.mp hg).resolve_right hmem
      rw [if_pos rfl]
      cases hlast : lastAt? t rest (g.place t) with
      | none =>
        refine iff_of_true rfl fun g' hsub hplace => ?_
        refine (lastAt?_eq_none_iff t rest _).mp hlast g' ?_ hplace.symm
        exact List.singleton_sublist.mp (List.cons_sublist_cons.mp hsub)
      | some last =>
        obtain ⟨hlastmem, hplace⟩ := mem_of_lastAt? t rest _ last hlast
        refine iff_of_false (fun he => ?_) fun hall => ?_
        · exact hfirst last hlastmem hplace.symm (Option.some.inj he).symm
        · refine hall last (List.cons_sublist_cons.mpr ?_) hplace.symm
          exact List.singleton_sublist.mpr hlastmem

end GeneratedFile

/-- A check finds nothing wrong exactly if every file is up to date. -/
theorem Program.checkFiles_error? (t : FileTree) (stale : Nat) (files : List GeneratedFile) :
    (checkFiles t stale files).error? = none ↔
      stale = 0 ∧ ∀ g ∈ files, g.check t = .ok .upToDate := by
  induction files generalizing stale with
  | nil =>
    unfold checkFiles
    by_cases h : stale = 0 <;> simp [h, Report.printed, Report.failed]
  | cons g rest ih =>
    unfold checkFiles
    cases hcheck : g.check t with
    | error e => simp [Report.on, Report.failed, hcheck]
    | ok status =>
      show (checkFiles t (if status = .upToDate then stale else stale + 1) rest).error? = none ↔ _
      rw [ih]
      by_cases hstatus : status = .upToDate
      · rw [if_pos hstatus]
        simp [hcheck, hstatus]
      · rw [if_neg hstatus]
        simp [hcheck, hstatus]

end CrossBrowser
