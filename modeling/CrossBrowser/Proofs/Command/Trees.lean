import CrossBrowser.Proofs.Command.Effects
import CrossBrowser.Proofs.FileTree.Rooted
import CrossBrowser.Proofs.Output.Writing

/-! The trees that commands leave.

Only generating changes a tree. It makes directories and writes files, so a tree that hangs together
still does afterwards, also if generating has stopped halfway (`Invocation.run_rooted`). So does
every tree that comes from the empty one when directories are made, files are written and commands
are run, in any order (`FileTree.Made.rooted`). -/
namespace CrossBrowser
open FileTree

/-! ### Generating -/

section
variable {t : FileTree} (hr : t.Rooted)
include hr

theorem GeneratedFile.prepared_rooted (g : GeneratedFile) : (g.prepared t).1.Rooted := by
  unfold prepared
  split
  · exact hr
  · exact hr.makeDirectories _

theorem GeneratedFile.write_rooted (g : GeneratedFile) : (g.write t).1.Rooted := by
  have hu := prepared_rooted hr g
  rcases hprepared : prepared t g with ⟨u, made⟩
  rw [hprepared] at hu
  unfold prepared at hprepared
  unfold write
  simp only [hprepared]
  cases made with
  | false => exact hu
  | true =>
    cases hwrite : u.write? g.output (Text.encodeUtf8 g.contents) with
    | none => simpa [hwrite] using hu
    | some v => simpa [hwrite] using hu.write? _ _ hwrite

namespace Program

/-- Writing files one after the other leaves a tree that hangs together, even if one of them cannot
be written. -/
theorem writeFiles_rooted (files : List GeneratedFile) : (writeFiles t files).1.Rooted := by
  induction files generalizing t with
  | nil => exact hr
  | cons g rest ih =>
    have hu := GeneratedFile.write_rooted hr g
    rcases hwrite : g.write t with ⟨u, e | done⟩
    · rw [hwrite] at hu
      rw [GeneratedFile.writeFiles_of_write t g rest _ hwrite]
      exact hu
    · rw [hwrite] at hu
      rw [GeneratedFile.writeFiles_of_ok t u g rest hwrite]
      exact ih hu

theorem runGenerate_rooted (c : Config) (path : Path) : (runGenerate t c path).1.Rooted := by
  unfold runGenerate
  split
  · exact hr
  · exact writeFiles_rooted hr _

end Program

/-! ### All commands -/

/-- **A command leaves a tree that hangs together,** whether or not it fails. -/
theorem Invocation.run_rooted (i : Invocation) : (i.run t).1.Rooted := by
  by_cases h : ∃ path options, i.command = .generate path options
  · obtain ⟨path, options, hcommand⟩ := h
    unfold Invocation.run
    cases i.loadConfig t with
    | error e => exact hr
    | ok c =>
      show (Program.run t c i.verbose i.command).1.Rooted
      rw [hcommand]
      exact Program.runGenerate_rooted hr _ path
  · rw [i.run_tree t fun path options hcommand => h ⟨path, options, hcommand⟩]
    exact hr

end

/-- The trees that come from the empty one. -/
inductive FileTree.Made (workingDirectory : Location) : FileTree → Prop where
  | empty : Made workingDirectory (.empty workingDirectory)
  /-- Someone makes directories. -/
  | directories {t : FileTree} (h : Made workingDirectory t) (p : Path) :
      Made workingDirectory (t.makeDirectories p).1
  /-- Someone writes a file. -/
  | file {t t' : FileTree} (h : Made workingDirectory t) (p : Path) (contents : ByteArray)
      (hwrite : t.write? p contents = some t') : Made workingDirectory t'
  /-- A command is run. -/
  | run {t : FileTree} (h : Made workingDirectory t) (i : Invocation) :
      Made workingDirectory (i.run t).1

/-- **All trees that are made hang together,** if the names down to the working directory are names
that things can have. -/
theorem FileTree.Made.rooted {workingDirectory : Location}
    (hnames : ∀ name ∈ workingDirectory, Path.ProperName name ∧ Nameable name) {t : FileTree}
    (h : Made workingDirectory t) : t.Rooted := by
  induction h with
  | empty => exact .of_empty workingDirectory hnames
  | directories _ p ih => exact ih.makeDirectories p
  | file _ p contents hwrite ih => exact ih.write? p contents hwrite
  | run _ i ih => exact i.run_rooted ih

end CrossBrowser
