import CrossBrowser.Browser.Identifier
import CrossBrowser.Proofs.Text.Trimming
import Mathlib.Data.List.TakeDrop

/-! Labels of browser identifiers.

The fields of an identifier have no commas and no blanks at their ends (`IsField`), and up to four
such texts with commas between them are an identifier with just these fields
(`browserFields_intercalate`). So a label, which has no commas, is an identifier of one field and
its own label, and the identifier that is put together from a browser names this browser
(`browserLabel_normal`). -/
namespace CrossBrowser

/-- A text that can be a field of an identifier. -/
structure IsField (field : String) : Prop where
  trimmed : Text.Trimmed field
  no_comma : ',' ∉ field.toList

theorem isField_empty : IsField "" := ⟨Text.trimmed_empty, by decide⟩

theorem isField_of_mem {id field : String} (h : field ∈ browserFields id) : IsField field := by
  obtain ⟨piece, hpiece, rfl⟩ := List.mem_map.mp h
  refine ⟨Text.trimmed_trim _, fun hcomma => ?_⟩
  have hmem := Text.mem_of_mem_trim hcomma
  rw [String.toList_ofList] at hmem
  exact absurd (Text.of_mem_splitOnP (List.mem_of_mem_take hpiece) ',' hmem) (by decide)

theorem length_browserFields (id : String) : (browserFields id).length ≤ browserFieldCount := by
  rw [browserFields, List.length_map]
  exact List.length_take_le _ _

/-- Fields with commas between them are the fields of what they make up. -/
theorem browserFields_intercalate (fields : List String) (hne : fields ≠ [])
    (hlength : fields.length ≤ browserFieldCount) (h : ∀ field ∈ fields, IsField field) :
    browserFields (",".intercalate fields) = fields := by
  have hsplit : (",".intercalate fields).toList.splitOn ',' = fields.map String.toList :=
    Text.splitOn_intercalate rfl hne fun field hfield => (h field hfield).no_comma
  rw [browserFields, hsplit, List.take_of_length_le (by rwa [List.length_map]), List.map_map]
  refine (List.map_congr_left fun field hfield => ?_).trans (List.map_id fields)
  show Text.trim (String.ofList field.toList) = field
  rw [String.ofList_toList, (h field hfield).trimmed.trim_eq]

/-! ### Labels -/

/-- The fields of an identifier that say something. -/
def saidFields (id : String) : List String := (browserFields id).filter (· ≠ "")

theorem isField_label (id : String) : IsField (browserLabel id) := by
  have hsaid : ∀ field ∈ saidFields id, IsField field ∧ field ≠ "" := by
    intro field h
    obtain ⟨hmem, hne⟩ := List.mem_filter.mp h
    exact ⟨isField_of_mem hmem, of_decide_eq_true hne⟩
  refine ⟨.intercalate fun field h => ⟨(hsaid field h).1.trimmed, (hsaid field h).2⟩, ?_⟩
  exact Text.not_mem_intercalate (by decide) fun field h => (hsaid field h).1.no_comma

/-- A field that stands alone is its own label. -/
theorem IsField.label_eq {field : String} (h : IsField field) : browserLabel field = field := by
  have hfields := browserFields_intercalate [field] (List.cons_ne_nil field []) (Nat.le_of_ble_eq_true rfl)
    fun other hother => List.mem_singleton.mp hother ▸ h
  rw [String.intercalate_singleton] at hfields
  rw [browserLabel, hfields]
  by_cases hempty : field = "" <;> simp [hempty]

/-! ### Reading by position -/

namespace Browser

/-- What an identifier says at its first positions are those of its first fields that say
something. -/
theorem filterMap_fieldAt (fields : List String) (count : Nat) :
    (List.range count).filterMap (fieldAt fields) = (fields.take count).filter (· ≠ "") := by
  induction count with
  | zero => rfl
  | succ count ih =>
    rw [List.range_succ, List.filterMap_append, ih, List.take_add_one, List.filter_append]
    congr 1
    cases h : fields[count]? with
    | none => simp [fieldAt, h]
    | some field => by_cases hempty : field = "" <;> simp [fieldAt, ofField, h, hempty]

/-- What can be said at a position: nothing, or a field that is not empty. -/
def Sayable (said : Option String) : Prop := ∀ field, said = some field → IsField field ∧ field ≠ ""

theorem sayable_fieldAt (id : String) (position : Nat) :
    Sayable (fieldAt (browserFields id) position) := by
  intro field h
  obtain ⟨field', hmem, hsaid⟩ := Option.bind_eq_some_iff.mp h
  unfold ofField at hsaid
  split at hsaid
  · cases hsaid
  · next hne =>
    obtain rfl := Option.some.inj hsaid
    exact ⟨isField_of_mem (List.mem_of_getElem? hmem), hne⟩

theorem Sayable.isField {said : Option String} (h : Sayable said) : IsField (said.getD "") := by
  cases said with
  | none => exact isField_empty
  | some field => exact (h field rfl).1

theorem Sayable.ofField_eq {said : Option String} (h : Sayable said) :
    ofField (said.getD "") = said := by
  cases said with
  | none => rfl
  | some field => exact if_neg (h field rfl).2

variable {id : String} {b : Browser}

theorem fieldAt_of_ofId? (h : ofId? id = some b) :
    [some b.name, b.version, b.os, b.osVersion] =
      (List.range browserFieldCount).map (fieldAt (browserFields id)) := by
  obtain ⟨name, hname, rfl⟩ := Option.map_eq_some_iff.mp h
  rw [← hname]
  rfl

theorem label_eq_browserLabel (h : ofId? id = some b) : b.label = browserLabel id := by
  rw [label, browserLabel, fieldAt_of_ofId? h, List.filterMap_map]
  show " ".intercalate ((List.range browserFieldCount).filterMap (fieldAt (browserFields id))) = _
  rw [filterMap_fieldAt, List.take_of_length_le (length_browserFields id)]

/-- The identifier put together from what can be said names the browser it is said of. -/
theorem ofId?_toId (b : Browser)
    (h : ∀ said ∈ [some b.name, b.version, b.os, b.osVersion], Sayable said) :
    ofId? b.toId = some b := by
  obtain ⟨name, version, os, osVersion⟩ := b
  have htoId : toId ⟨name, version, os, osVersion⟩ =
      ",".intercalate ([some name, version, os, osVersion].map (·.getD "")) := rfl
  have hfields := browserFields_intercalate ([some name, version, os, osVersion].map (·.getD ""))
    (List.cons_ne_nil _ _) (by simp [browserFieldCount]) (by
      rw [List.forall_mem_map]
      exact fun said hsaid => (h said hsaid).isField)
  have hname := (h (some name) (by simp)).ofField_eq
  have hversion := (h version (by simp)).ofField_eq
  have hos := (h os (by simp)).ofField_eq
  have hosVersion := (h osVersion (by simp)).ofField_eq
  rw [ofId?, htoId, hfields]
  show ((ofField ((some name).getD "")).map fun name => (⟨name, ofField (version.getD ""),
    ofField (os.getD ""), ofField (osVersion.getD "")⟩ : Browser)) = _
  rw [hname, hversion, hos, hosVersion, Option.map_some]

/-- **Labels are in normal form, and agree with reading by position.** A label has no commas and no
blanks at its ends, and is its own label. If an identifier names a browser, its label is that of the
browser, and putting the browser's fields together gives an identifier that names the same
browser. -/
theorem browserLabel_normal (id : String) :
    ',' ∉ (browserLabel id).toList ∧
      (∀ c, (browserLabel id).toList.head? = some c → Text.isBlank c = false) ∧
      (∀ c, (browserLabel id).toList.getLast? = some c → Text.isBlank c = false) ∧
      browserLabel (browserLabel id) = browserLabel id ∧
      ∀ b, ofId? id = some b → b.label = browserLabel id ∧ ofId? b.toId = some b := by
  have hlabel := isField_label id
  refine ⟨hlabel.no_comma, hlabel.trimmed.head, hlabel.trimmed.last, hlabel.label_eq, fun b h => ?_⟩
  refine ⟨label_eq_browserLabel h, ofId?_toId b ?_⟩
  rw [fieldAt_of_ofId? h, List.forall_mem_map]
  exact fun position _ => sayable_fieldAt id position

theorem browserLabel_normal_positions :
    let id := " chrome ,\u2003, Windows  10,,surplus"
    ofId? id = some ⟨"chrome", none, some "Windows  10", none⟩ ∧
      browserLabel id = "chrome Windows  10" ∧
      (⟨"chrome", none, some "Windows  10", none⟩ : Browser).toId = "chrome,,Windows  10," ∧
      ofId? "chrome,,Windows  10," = some ⟨"chrome", none, some "Windows  10", none⟩ := by
  intro id
  let b : Browser := ⟨"chrome", none, some "Windows  10", none⟩
  have h : ofId? id = some b := by decide +kernel
  have htoId : b.toId = "chrome,,Windows  10," := by decide +kernel
  obtain ⟨hlabel, hback⟩ := (browserLabel_normal id).2.2.2.2 b h
  rw [htoId] at hback
  exact ⟨h, hlabel.symm.trans (by decide +kernel), htoId, hback⟩

end Browser
end CrossBrowser
