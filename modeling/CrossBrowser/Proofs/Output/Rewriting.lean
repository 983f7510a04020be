import CrossBrowser.Proofs.Output.Writing

/-! Writing the same files again.

After a run of writing that has succeeded, the directories for its files are there, and no directory
lies where one of them goes. Another run therefore makes no directories, and puts the files into their
places one after the other (`writeFiles_again`). They come in the same order, so each place is left
with what the first run left there (`Written.putAll_same`). -/
namespace CrossBrowser
open FileTree

/-- Trees in which the same lies everywhere, and relative paths start from the same directory. -/
structure FileTree.Same (t t' : FileTree) : Prop where
  workingDirectory : t'.workingDirectory = t.workingDirectory
  occupant : ∀ l, t'.occupant? l = t.occupant? l

namespace GeneratedFile

/-! ### One file -/

/-- The directories for a file that has been written are there. -/
theorem prepared_again (t v : FileTree) (hw : t.WellFormed) (g : GeneratedFile)
    (h : (g.write t).2 = .ok ()) (hg : (g.write t).1.Grows v) : prepared v g = (v, true) := by
  obtain ⟨hmade, hwrite⟩ := (write_eq_ok_iff t (g.write t).1 g).mp (Prod.ext rfl h)
  obtain ⟨_, _, hwrites⟩ := write?_spec _ _ ((prepared_adds t hw g).wellFormed hw) _ _ hwrite
  have hgrows := hwrites.grows.trans hg
  unfold prepared at hmade hgrows ⊢
  split
  · rfl
  · next hparent =>
    rw [if_neg hparent] at hmade hgrows
    exact makeDirectories_again t v hw _ hmade hgrows

/-- A file that has been written can be written again, and nothing but the file is put. -/
theorem write_again (t v : FileTree) (hw : t.WellFormed) (g : GeneratedFile)
    (h : (g.write t).2 = .ok ()) (hg : (g.write t).1.Grows v)
    (hdir : ¬v.isDirectory (g.place t) = true) :
    g.write v = (v.put (g.place t) (.file (Text.encodeUtf8 g.contents)), .ok ()) := by
  have hlocate := hg.locate? _ _ (write_ok t hw g h).2
  rw [write_eq_ok_iff, prepared_again t v hw g h hg]
  refine ⟨rfl, ?_⟩
  show v.write? g.output (Text.encodeUtf8 g.contents) = _
  rw [write?, hlocate, Option.bind_eq_bind, Option.bind_some, if_neg hdir]

/-! ### A run -/

/-- The tree in which files have been put into their places, one after the other. -/
def putAll (t : FileTree) (files : List GeneratedFile) : FileTree :=
  files.foldl (fun t g => t.put (g.place t) (.file (Text.encodeUtf8 g.contents))) t

theorem workingDirectory_putAll (files : List GeneratedFile) (t : FileTree) :
    (putAll t files).workingDirectory = t.workingDirectory := by
  induction files generalizing t with
  | nil => rfl
  | cons g rest ih => exact ih (t.put (g.place t) (.file (Text.encodeUtf8 g.contents)))

/-- Each place has the last of the files that were put there. -/
theorem occupant?_putAll (files : List GeneratedFile) (t : FileTree)
    (h : ∀ g ∈ files, g.place t ≠ []) (l : Location) :
    (putAll t files).occupant? l =
      ((lastAt? t files l).map fun g => .file (Text.encodeUtf8 g.contents)).or (t.occupant? l) := by
  induction files generalizing t with
  | nil => rfl
  | cons g rest ih =>
    let u := t.put (g.place t) (.file (Text.encodeUtf8 g.contents))
    have hrest : (putAll t (g :: rest)).occupant? l =
        ((lastAt? t rest l).map fun g => .file (Text.encodeUtf8 g.contents)).or (u.occupant? l) :=
      ih u fun g' hg' => h g' (List.mem_cons_of_mem g hg')
    rw [hrest, lastAt?_cons]
    cases lastAt? t rest l with
    | some last => rfl
    | none =>
      by_cases hl : g.place t = l
      · rw [if_pos hl, ← hl]
        exact occupant?_put_self t _ (h g List.mem_cons_self)
      · rw [if_neg hl]
        exact occupant?_put_of_ne t _ l _ (Ne.symm hl)

/-- After a run that has succeeded, another one only puts the files into their places. -/
theorem writeFiles_again (files : List GeneratedFile) (t v : FileTree) (hw : t.WellFormed)
    (h : (Program.writeFiles t files).2.error? = none)
    (hg : (Program.writeFiles t files).1.Grows v)
    (hdir : ∀ g ∈ files, ¬v.isDirectory (g.place t) = true) :
    (Program.writeFiles v files).1 = putAll v files ∧
      (Program.writeFiles v files).2.error? = none := by
  induction files generalizing t v with
  | nil => exact ⟨rfl, rfl⟩
  | cons g rest ih =>
    obtain ⟨hok, hrest, htree⟩ := writeFiles_cons t g rest h
    obtain ⟨hwrites, _⟩ := write_ok t hw g hok
    have hlater := (writeFiles_written rest _ (hwrites.wellFormed hw) hrest).grows
    rw [htree] at hg
    have hplace : g.place v = g.place t :=
      place_of_grows (hwrites.grows.trans (hlater.trans hg)) g
    have hfirst := hdir g List.mem_cons_self
    have hagain := write_again t v hw g hok (hlater.trans hg) hfirst
    let v' := v.put (g.place t) (.file (Text.encodeUtf8 g.contents))
    have hv' : v.Grows v' := grows_put v _ _ hfirst
    have hne : g.place t ≠ [] := by
      intro hnil
      rw [hnil] at hfirst
      exact hfirst rfl
    have hdir' : ∀ g' ∈ rest, ¬v'.isDirectory (g'.place (g.write t).1) = true := by
      intro g' hg' hd
      rw [place_of_grows hwrites.grows] at hd
      exact hdir g' (List.mem_cons_of_mem g hg') (isDirectory_put_file v _ _ _ hne hd)
    have hnext := ih _ v' (hwrites.wellFormed hw) hrest (hg.trans hv') hdir'
    rw [writeFiles_of_ok v v' g rest hagain, putAll, List.foldl_cons, hplace]
    exact hnext

/-- No directory lies where a run has written a file. -/
theorem Written.not_isDirectory {files : List GeneratedFile} {t t' : FileTree}
    (h : Written files t t') (g : GeneratedFile) (hg : g ∈ files) :
    ¬t'.isDirectory (g.place t) = true := by
  obtain ⟨last, hlast⟩ := Option.ne_none_iff_exists'.mp
    fun hnone => (lastAt?_eq_none_iff t files (g.place t)).mp hnone g hg rfl
  have hcontents := h.contents (g.place t)
  rw [hlast, Option.map_some, Option.some_or, contents?_eq_some_iff] at hcontents
  rw [isDirectory_iff, hcontents]
  exact fun he => by cases he

/-- Putting the files of a run into their places again leaves what the run has left. -/
theorem Written.putAll_same {files : List GeneratedFile} {t t' : FileTree}
    (h : Written files t t') : t'.Same (putAll t' files) := by
  have hplace : ∀ g ∈ files, g.place t' ≠ [] := by
    intro g hg hnil
    rw [place_of_grows h.grows] at hnil
    exact h.not_isDirectory g hg (hnil ▸ rfl)
  refine ⟨workingDirectory_putAll files t', fun l => ?_⟩
  have hcontents := h.contents l
  rw [occupant?_putAll files t' hplace, lastAt?_of_grows h.grows]
  cases hlast : lastAt? t files l with
  | none => rfl
  | some last =>
    rw [hlast] at hcontents
    exact ((contents?_eq_some_iff t' l _).mp hcontents).symm

end GeneratedFile
end CrossBrowser
