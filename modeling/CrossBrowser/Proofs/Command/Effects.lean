import CrossBrowser.Proofs.Command.Check
import CrossBrowser.Proofs.Output.Failing

/-! What commands do to the tree.

Only generating writes, and it has generated the files for all sources before it writes the first:
if anything is wrong with a source, the sources before it have left nothing either. -/
namespace CrossBrowser
open Discovery GeneratedFile

namespace Program
section
variable (t : FileTree) (c : Config)

/-- Generating ends, before it writes, with what goes wrong with the first source that fails. -/
theorem runGenerate_first_failure (path : Path) (found : List Path)
    (hfound : featureFiles t c path = .ok found)
    (hfails : ∃ source ∈ found, ∃ e, Fails t source e) :
    ∃ before source after e, found = before ++ source :: after ∧
      (∀ p ∈ before, ∀ e, ¬Fails t p e) ∧ Fails t source e ∧
      runGenerate t c path = (t, .failed e) := by
  have hiff := fun source => generate_error_iff t c source (searchRoot t path)
  simp only [← hiff] at hfails ⊢
  obtain ⟨before, source, after, e, hsplit, hbefore, he, hrun⟩ := mapM_first_error _ found hfails
  refine ⟨before, source, after, e, hsplit, hbefore, he, ?_⟩
  rw [runGenerate_of_found t c path found hfound, hrun]

/-- A command that does not generate leaves the tree as it is. -/
theorem run_tree (verbose : Bool) (command : Command)
    (h : ∀ path options, command ≠ .generate path options) : (run t c verbose command).1 = t := by
  cases command with
  | generate path options => exact absurd rfl (h path options)
  | check | print | classify | plan | verify => rfl

/-- **What commands leave.** If anything goes wrong with one of the sources found, generating fails
with what goes wrong with the first of them, and leaves the tree as it was. All other commands leave
the tree as it was in any case. -/
theorem run_leaves_tree (verbose : Bool) (command : Command) :
    (∀ path options, command = .generate path options →
      ∀ found, featureFiles t (c.withOptions options) path = .ok found →
      (∃ source ∈ found, ∃ e, Fails t source e) →
      ∃ before source after e, found = before ++ source :: after ∧
        (∀ p ∈ before, ∀ e, ¬Fails t p e) ∧ Fails t source e ∧
        run t c verbose command = (t, .failed e)) ∧
    ((∀ path options, command ≠ .generate path options) → (run t c verbose command).1 = t) := by
  refine ⟨?_, run_tree t c verbose command⟩
  rintro path options rfl found hfound hfails
  exact runGenerate_first_failure t (c.withOptions options) path found hfound hfails

end
end Program

/-- A call that is not for generating leaves the tree as it is, whether or not there is a
configuration for it. -/
theorem Invocation.run_tree (i : Invocation) (t : FileTree)
    (h : ∀ path options, i.command ≠ .generate path options) : (i.run t).1 = t := by
  unfold Invocation.run
  cases i.loadConfig t with
  | error e => rfl
  | ok c => exact Program.run_tree t c i.verbose i.command h

/-! ### A tree with two sources that fail -/

/-- A tree with a feature, a text that is no feature, and a feature with a blank title. -/
def faultyTree : FileTree :=
  (((FileTree.empty ["w"]).put ["w", "c.yaml"] (.file (Text.encodeUtf8 "title: \" \""))).put
    ["w", "b.json"] (.file (Text.encodeUtf8 "\x7b"))).put
    ["w", "a.yaml"] (.file (Text.encodeUtf8 "title: A"))

/-- The sources in that tree, in their order. -/
def faultySources : List Path := [⟨"./a.yaml"⟩, ⟨"./b.json"⟩, ⟨"./c.yaml"⟩]

theorem featureFiles_faulty :
    featureFiles faultyTree (Config.standard.withOptions ⟨none, none⟩) ⟨"."⟩ = .ok faultySources :=
  featureFiles_of_sorted _ _ _ faultySources _ (by decide +kernel) (by decide +kernel)
    (by decide +kernel) (by decide +kernel)

theorem not_fails_feature (e : Error) : ¬Fails faultyTree ⟨"./a.yaml"⟩ e := by
  have hok : (generate faultyTree .standard ⟨"./a.yaml"⟩ ⟨"."⟩).toBool = true := by decide +kernel
  rw [← generate_error_iff faultyTree .standard _ ⟨"."⟩]
  intro h
  rw [h] at hok
  cases hok

theorem fails_notFeature_iff (e : Error) :
    Fails faultyTree ⟨"./b.json"⟩ e ↔ e = .undecodedFeature ⟨"./b.json"⟩ .notFeature := by
  have hfails : Fails faultyTree ⟨"./b.json"⟩ (.undecodedFeature ⟨"./b.json"⟩ .notFeature) :=
    .notFeature "\x7b" .json (by decide +kernel) (by decide +kernel) (by decide +kernel)
  have herror := fun e => generate_error_iff faultyTree .standard ⟨"./b.json"⟩ ⟨"."⟩ e
  rw [← herror, (herror _).mpr hfails, Except.error.injEq, eq_comm]

/-- Generating for three sources writes nothing if the second is no feature. -/
theorem run_faulty :
    Program.run faultyTree .standard false (.generate ⟨"."⟩ ⟨none, none⟩) =
        (faultyTree, .failed (.undecodedFeature ⟨"./b.json"⟩ .notFeature)) ∧
      (Program.run faultyTree .standard false (.check ⟨"."⟩ ⟨none, none⟩)).1 = faultyTree := by
  constructor
  · obtain ⟨before, source, after, e, hsplit, hbefore, hfails, hrun⟩ :=
      (Program.run_leaves_tree faultyTree .standard false (.generate ⟨"."⟩ ⟨none, none⟩)).1 _ _ rfl
        _ featureFiles_faulty ⟨⟨"./b.json"⟩, by decide, _, (fails_notFeature_iff _).mpr rfl⟩
    -- The failing source is neither before nor after the second.
    match before, hsplit with
    | [], hsplit =>
      obtain ⟨rfl, -⟩ := List.cons.inj hsplit
      exact absurd hfails (not_fails_feature e)
    | [_], hsplit =>
      obtain ⟨rfl, -⟩ := List.cons.inj (List.cons.inj hsplit).2
      rw [hrun, (fails_notFeature_iff e).mp hfails]
    | _ :: _ :: _, hsplit =>
      obtain ⟨rfl, -⟩ := List.cons.inj (List.cons.inj hsplit).2
      exact absurd ((fails_notFeature_iff _).mpr rfl) (hbefore _ (by simp) _)
  · exact (Program.run_leaves_tree faultyTree .standard false (.check ⟨"."⟩ ⟨none, none⟩)).2 nofun

end CrossBrowser
