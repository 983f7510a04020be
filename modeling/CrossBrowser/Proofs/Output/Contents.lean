import CrossBrowser.Output.Generated
import CrossBrowser.Proofs.CSharp.Layout

/-! What a generated file says about where it comes from.

A generated file names the file it was made from in its header. So files made from files with
different names differ, as long as one can tell where the name ends. -/
namespace CrossBrowser

namespace CSharp
open Text

/-! ### The name in the header -/

/-- The steps of a header up to the name of the file it is made from. -/
def headerTop : List LayoutStep :=
  [.line "// ------------------------------------------------------------------------------",
    .line "//  <auto-generated>",
    .line ("//      This code was generated by " ++ generatorName ++ ".")]

theorem sourceSteps_eq (c : TestClass) (name : String) (fingerprint : Option String) :
    ∃ rest, sourceSteps c ⟨some name, fingerprint⟩ =
      headerTop ++ .line ("//      Source: " ++ name) :: rest := by
  unfold sourceSteps headerLines headerTop
  simp only [List.map_append, List.append_assoc]
  exact ⟨_, rfl⟩

/-- The name in the header of a file stands between what all headers begin with and the end of its
line. -/
theorem source_toList (c : TestClass) (name : String) (fingerprint : Option String) :
    ∃ tail, (source c ⟨some name, fingerprint⟩).toList =
      laid 0 headerTop ++ ("//      Source: ".toList ++ (name.toList ++ '\n' :: tail)) := by
  obtain ⟨rest, hrest⟩ := sourceSteps_eq c name fingerprint
  have hline : "//      Source: " ++ name ≠ "" := by simp
  have hdepth : depthAfter 0 headerTop = 0 := rfl
  refine ⟨laid 0 rest, ?_⟩
  rw [source, layOut_toList, hrest, laid_append, hdepth, laid_line, indented_toList 0 hline,
    String.toList_append]
  simp [Layout.indentation]

/-- Generated files whose names in the header differ in the extension differ. -/
theorem source_ne (c c' : TestClass) (stem extension extension' : String)
    (fingerprint fingerprint' : Option String) (hne : extension ≠ extension')
    (hline : '\n' ∉ extension.toList) (hline' : '\n' ∉ extension'.toList) :
    source c ⟨some (stem ++ "." ++ extension), fingerprint⟩ ≠
      source c' ⟨some (stem ++ "." ++ extension'), fingerprint'⟩ := by
  intro h
  obtain ⟨tail, htail⟩ := source_toList c (stem ++ "." ++ extension) fingerprint
  obtain ⟨tail', htail'⟩ := source_toList c' (stem ++ "." ++ extension') fingerprint'
  rw [h, htail'] at htail
  simp only [String.toList_append, List.append_assoc, List.append_cancel_left_eq] at htail
  exact hne (String.toList_inj.mp (append_stop_inj '\n' hline' hline htail).1.symm)

end CSharp

/-- A text can be read back from its bytes. -/
theorem Text.decodeUtf8_encodeUtf8 (text : String) : decodeUtf8 (encodeUtf8 text) = .ok text := by
  have h : String.fromUTF8? text.toUTF8 = some text := dif_pos text.isValidUTF8
  rw [decodeUtf8, encodeUtf8, h]

end CrossBrowser
