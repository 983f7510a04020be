import CrossBrowser.Browser.Listing
import CrossBrowser.Proofs.Text.Trimming
import Mathlib.Data.List.Forall2
import Mathlib.Data.List.TakeDrop
import Mathlib.Logic.Relation

/-! Identifiers that are supported along with others.

What an identifier asks for is what its first four fields say, up to the blanks around them and the
case of A to Z (`asked_eq`). An entry of a listing that has all that one identifier asks for has all
that another asks for that asks for no more (`AsksNoMore.supportsId`). So it makes no difference how
an identifier is written (`Respelled`), and one that is supported stays so when it says less
(`Relaxed`) or the listing has more entries (`supportsId_changed`). -/
namespace CrossBrowser

/-! ### Upper and lower case -/

namespace Text

/-- The characters of a text, those from A to Z in lower case. -/
def caseless (s : String) : List Char := s.toList.map Char.toLower

theorem agreeIgnoringCase_eq (s t : String) :
    agreeIgnoringCase s t = (caseless s == caseless t) := rfl

theorem caseless_eq_nil_iff (s : String) : caseless s = [] ↔ s = "" := by
  rw [caseless, List.map_eq_nil_iff, String.toList_eq_nil_iff]

theorem toLower_cases (c : Char) :
    c.toLower = c ∨ 65 ≤ c.toNat ∧ c.toNat ≤ 90 ∧ c.toLower.toNat = c.toNat + 32 := by
  unfold Char.toLower
  split
  · next h =>
    have hlow : 65 ≤ c.toNat := h.1
    have hhigh : c.toNat ≤ 90 := h.2
    refine .inr ⟨hlow, hhigh, ?_⟩
    show (c.val + 32).toNat = c.toNat + 32
    rw [UInt32.toNat_add]
    show (c.toNat + 32) % 2 ^ 32 = c.toNat + 32
    omega
  · exact .inl rfl

theorem isBlank_toLower (c : Char) : isBlank c.toLower = isBlank c := by
  rcases toLower_cases c with h | ⟨hlow, hhigh, h⟩
  · rw [h]
  · rw [Bool.eq_iff_iff]
    simp [isBlank, h]
    omega

theorem toLower_eq_comma_iff (c : Char) : c.toLower = ',' ↔ c = ',' := by
  rcases toLower_cases c with h | ⟨hlow, hhigh, h⟩
  · rw [h]
  · rw [← Char.toNat_inj, ← Char.toNat_inj, h]
    simp
    omega

theorem caseless_trim (s : String) : caseless (trim s) = dropEndsWhile isBlank (caseless s) := by
  have hblank : isBlank ∘ Char.toLower = isBlank := funext isBlank_toLower
  rw [caseless, caseless, dropEndsWhile_map, hblank, trim, String.toList_ofList]

end Text

/-! ### What identifiers ask for -/

/-- The fields of an identifier as they are written. -/
def writtenFields (id : String) : List String := (id.toList.splitOn ',').map String.ofList

theorem map_caseless_writtenFields (id : String) :
    (writtenFields id).map Text.caseless = (Text.caseless id).splitOn ',' := by
  have hcomma : (· == ',') ∘ Char.toLower = (· == ',') := by
    funext c
    apply Bool.eq_iff_iff.mpr
    simpa using Text.toLower_eq_comma_iff c
  have hfield : Text.caseless ∘ String.ofList = List.map Char.toLower := by
    funext field
    simp [Text.caseless]
  simp only [writtenFields, List.map_map, hfield, Text.caseless, List.splitOn, Text.splitOnP_map,
    hcomma]

namespace Browser

/-- What an identifier asks for at a position, up to the case of A to Z. -/
def asked (id : String) (position : Nat) : Option (List Char) :=
  (fieldAt (browserFields id) position).map Text.caseless

/-- What a field with these characters asks for: what is left of them without the blanks around it,
if anything is. -/
def askedBy (field : List Char) : Option (List Char) :=
  let said := Text.dropEndsWhile Text.isBlank field
  if said = [] then none else some said

/-- What fields ask for at a position. -/
def askedAt (fields : List String) (position : Nat) : Option (List Char) :=
  fields[position]?.bind fun field => askedBy (Text.caseless field)

@[simp]
theorem askedAt_cons_zero (field : String) (fields : List String) :
    askedAt (field :: fields) 0 = askedBy (Text.caseless field) := by
  rw [askedAt, List.getElem?_cons_zero, Option.bind_some]

@[simp]
theorem askedAt_cons_succ (field : String) (fields : List String) (position : Nat) :
    askedAt (field :: fields) (position + 1) = askedAt fields position := by
  rw [askedAt, List.getElem?_cons_succ, askedAt]

theorem map_caseless_ofField (field : String) :
    (ofField (Text.trim field)).map Text.caseless = askedBy (Text.caseless field) := by
  rw [askedBy, ← Text.caseless_trim]
  by_cases h : Text.trim field = ""
  · simp [ofField, h, Text.caseless]
  · simp [ofField, h, Text.caseless_eq_nil_iff]

theorem asked_eq (id : String) (position : Nat) :
    asked id position = askedAt ((writtenFields id).take browserFieldCount) position := by
  have hfields : browserFields id = ((writtenFields id).take browserFieldCount).map Text.trim := by
    simp [browserFields, writtenFields, List.map_take, Function.comp_def]
  have hfield : Option.map Text.caseless ∘ ofField ∘ Text.trim =
      fun field => askedBy (Text.caseless field) := by
    funext field
    simp only [Function.comp_apply, map_caseless_ofField]
  rw [asked, fieldAt, hfields, List.getElem?_map, Option.bind_map, Option.map_bind, hfield,
    askedAt]

theorem askedAt_take (fields : List String) (count position : Nat) :
    askedAt (fields.take count) position =
      if position < count then askedAt fields position else none := by
  rw [askedAt, List.getElem?_take]
  split <;> rfl

theorem askedAt_eq (fields : List String) (position : Nat) :
    askedAt fields position = (fields.map Text.caseless)[position]?.bind askedBy := by
  rw [askedAt, List.getElem?_map, Option.bind_map, Function.comp_def]

/-- What is asked for is no more than something else: it is nothing, or the same. -/
def NoMore {α : Type} (asked' asked : Option α) : Prop := asked' = none ∨ asked' = asked

theorem NoMore.trans {α : Type} {asked'' asked' asked : Option α} (h' : NoMore asked'' asked')
    (h : NoMore asked' asked) : NoMore asked'' asked := by
  rcases h' with hnone | rfl
  · exact .inl hnone
  · exact h

/-- An identifier asks for no more than another one: for the same name, and for no more at any other
position. -/
structure AsksNoMore (id' id : String) : Prop where
  name : asked id' 0 = asked id 0
  others : ∀ position, NoMore (asked id' position) (asked id position)

theorem AsksNoMore.of_eq {id' id : String}
    (h : ∀ position, asked id' position = asked id position) : AsksNoMore id' id :=
  ⟨h 0, fun position => .inr (h position)⟩

theorem AsksNoMore.trans {id'' id' id : String} (h' : AsksNoMore id'' id') (h : AsksNoMore id' id) :
    AsksNoMore id'' id :=
  ⟨h'.name.trans h.name, fun position => (h'.others position).trans (h.others position)⟩

end Browser

/-! ### Entries -/

namespace ListedBrowser
open Browser

theorem has_congr (entry : Option String) {wanted wanted' : String}
    (h : Text.caseless wanted' = Text.caseless wanted) : has entry wanted' = has entry wanted := by
  simp only [has, Text.agreeIgnoringCase_eq, h]

theorem satisfies_of_noMore {entry wanted' wanted : Option String}
    (h : NoMore (wanted'.map Text.caseless) (wanted.map Text.caseless))
    (hwanted : satisfies entry wanted = true) : satisfies entry wanted' = true := by
  cases wanted' with
  | none => rfl
  | some value' =>
    rcases h with hnone | hsame
    · cases hnone
    · cases wanted with
      | none => cases hsame
      | some value => exact (has_congr entry (Option.some.inj hsame)).trans hwanted

/-- An entry that agrees with a browser agrees with one of which no more is given. -/
theorem accepts_of_noMore {entry : ListedBrowser} {b' b : Browser} (h : entry.accepts b = true)
    (hname : Text.caseless b'.name = Text.caseless b.name)
    (hversion : NoMore (b'.version.map Text.caseless) (b.version.map Text.caseless))
    (hos : NoMore (b'.os.map Text.caseless) (b.os.map Text.caseless))
    (hosVersion : NoMore (b'.osVersion.map Text.caseless) (b.osVersion.map Text.caseless)) :
    entry.accepts b' = true := by
  simp only [accepts, Bool.and_eq_true, Bool.or_eq_true] at h ⊢
  obtain ⟨⟨⟨hnamed, hversioned⟩, hsystem⟩, hsystemVersion⟩ := h
  refine ⟨⟨⟨?_, ?_⟩, ?_⟩, ?_⟩
  · rwa [has_congr _ hname, has_congr _ hname]
  · exact hversioned.imp (satisfies_of_noMore hversion) (satisfies_of_noMore hversion)
  · exact satisfies_of_noMore hos hsystem
  · exact satisfies_of_noMore hosVersion hsystemVersion

end ListedBrowser

namespace Browser

/-- What is given about a browser is what an identifier asks for. -/
structure GivenBy (id : String) (b : Browser) : Prop where
  name : asked id 0 = some (Text.caseless b.name)
  version : asked id 1 = b.version.map Text.caseless
  os : asked id 2 = b.os.map Text.caseless
  osVersion : asked id 3 = b.osVersion.map Text.caseless

theorem givenBy_of_ofId? {id : String} {b : Browser} (h : ofId? id = some b) : GivenBy id b := by
  obtain ⟨name, hname, rfl⟩ := Option.map_eq_some_iff.mp h
  constructor
  · rw [asked, hname, Option.map_some]
  · rw [asked]
  · rw [asked]
  · rw [asked]

theorem exists_ofId? {id : String} {name : List Char} (h : asked id 0 = some name) :
    ∃ b, ofId? id = some b := by
  obtain ⟨field, hfield, _⟩ := Option.map_eq_some_iff.mp h
  exact ⟨_, Option.map_eq_some_iff.mpr ⟨field, hfield, rfl⟩⟩

/-- **Support carries over** to identifiers that ask for no more, and to listings with more
entries. -/
theorem AsksNoMore.supportsId {listing larger : Listing} {id' id : String} (h : AsksNoMore id' id)
    (hlarger : listing ⊆ larger) (hid : listing.supportsId id = true) :
    larger.supportsId id' = true := by
  simp only [Listing.supportsId, Listing.supports, Option.any_eq_true, List.any_eq_true] at hid ⊢
  obtain ⟨b, hb, entry, hentry, haccepts⟩ := hid
  have hgiven := givenBy_of_ofId? hb
  obtain ⟨b', hb'⟩ := exists_ofId? (h.name.trans hgiven.name)
  have hgiven' := givenBy_of_ofId? hb'
  refine ⟨b', hb', entry, hlarger hentry, ?_⟩
  apply ListedBrowser.accepts_of_noMore haccepts
  · rw [← Option.some_inj, ← hgiven'.name, h.name, hgiven.name]
  · rw [← hgiven'.version, ← hgiven.version]
    exact h.others 1
  · rw [← hgiven'.os, ← hgiven.os]
    exact h.others 2
  · rw [← hgiven'.osVersion, ← hgiven.osVersion]
    exact h.others 3

theorem supportsId_congr (listing : Listing) {id' id : String}
    (h : ∀ position, asked id' position = asked id position) :
    listing.supportsId id' = listing.supportsId id := by
  apply Bool.eq_iff_iff.mpr
  constructor
  · exact (AsksNoMore.of_eq fun position => (h position).symm).supportsId (List.Subset.refl listing)
  · exact (AsksNoMore.of_eq h).supportsId (List.Subset.refl listing)

/-! ### Other ways to write an identifier -/

/-- A field with blanks put around it. -/
def Padded (field field' : String) : Prop :=
  ∃ before after, Text.isBlankText before = true ∧ Text.isBlankText after = true ∧
    field' = before ++ field ++ after

/-- An identifier and another way to write it. -/
inductive Respelled (id id' : String) : Prop where
  /-- Letters from A to Z in the other case. -/
  | recased (h : Text.agreeIgnoringCase id id' = true)
  /-- Blanks around the fields. -/
  | padded (h : List.Forall₂ Padded (writtenFields id) (writtenFields id'))
  /-- Other fields, or more of them, after those that can be used. -/
  | surplus (h : (writtenFields id').take browserFieldCount =
      (writtenFields id).take browserFieldCount)

theorem askedBy_padded {field field' : String} (h : Padded field field') :
    askedBy (Text.caseless field') = askedBy (Text.caseless field) := by
  obtain ⟨before, after, hbefore, hafter, rfl⟩ := h
  rw [← map_caseless_ofField, ← map_caseless_ofField, Text.trim_surrounded hbefore hafter]

theorem askedAt_padded {fields fields' : List String} (h : List.Forall₂ Padded fields fields')
    (position : Nat) : askedAt fields' position = askedAt fields position := by
  induction h generalizing position with
  | nil => rfl
  | cons hfield _ ih =>
    cases position with
    | zero => rw [askedAt_cons_zero, askedAt_cons_zero, askedBy_padded hfield]
    | succ position => rw [askedAt_cons_succ, askedAt_cons_succ, ih position]

theorem Respelled.asked_eq {id id' : String} (h : Respelled id id') (position : Nat) :
    asked id' position = asked id position := by
  rw [Browser.asked_eq, Browser.asked_eq]
  cases h with
  | recased h =>
    have hcase : Text.caseless id = Text.caseless id' := beq_iff_eq.mp h
    rw [askedAt_take, askedAt_take, askedAt_eq, askedAt_eq, map_caseless_writtenFields,
      map_caseless_writtenFields, hcase]
  | padded h => rw [askedAt_take, askedAt_take, askedAt_padded h]
  | surplus h => rw [h]

/-! ### Identifiers that say less -/

/-- A field and the same field, or nothing but blanks in its place. -/
def KeptOrBlank (field field' : String) : Prop := field' = field ∨ Text.isBlankText field' = true

/-- An identifier and one that says less. -/
inductive Relaxed (id id' : String) : Prop where
  /-- Any fields but the first blank. -/
  | blanked (name : String) (others others' : List String)
      (h : writtenFields id = name :: others) (h' : writtenFields id' = name :: others')
      (hothers : List.Forall₂ KeptOrBlank others others')
  /-- Fields at the end cut off. -/
  | cut (h : writtenFields id' <+: writtenFields id)

theorem askedBy_blank {field : String} (h : Text.isBlankText field = true) :
    askedBy (Text.caseless field) = none := by
  rw [← map_caseless_ofField, (Text.trim_eq_empty_iff field).mpr h]
  rfl

theorem noMore_of_keptOrBlank {fields fields' : List String}
    (h : List.Forall₂ KeptOrBlank fields fields') (position : Nat) :
    NoMore (askedAt fields' position) (askedAt fields position) := by
  induction h generalizing position with
  | nil => exact .inr rfl
  | cons hfield _ ih =>
    cases position with
    | zero =>
      rw [askedAt_cons_zero, askedAt_cons_zero]
      rcases hfield with rfl | hblank
      · exact .inr rfl
      · exact .inl (askedBy_blank hblank)
    | succ position =>
      rw [askedAt_cons_succ, askedAt_cons_succ]
      exact ih position

theorem noMore_of_isPrefix {fields fields' : List String} (h : fields' <+: fields)
    (position : Nat) : NoMore (askedAt fields' position) (askedAt fields position) := by
  by_cases hposition : position < fields'.length
  · right
    rw [askedAt, askedAt, List.prefix_iff_getElem?.mp h position hposition,
      List.getElem?_eq_getElem hposition]
  · left
    rw [askedAt, List.getElem?_eq_none (Nat.not_lt.mp hposition)]
    rfl

/-- Fields that begin with the same one and ask for no more make up an identifier that asks for no
more. -/
theorem AsksNoMore.of_fields {id' id name : String} {others others' : List String}
    (h : writtenFields id = name :: others) (h' : writtenFields id' = name :: others')
    (hothers : ∀ position, NoMore (askedAt others' position) (askedAt others position)) :
    AsksNoMore id' id := by
  have hall : ∀ position, NoMore (askedAt (name :: others') position)
      (askedAt (name :: others) position) := by
    intro position
    cases position with
    | zero => exact .inr rfl
    | succ position =>
      rw [askedAt_cons_succ, askedAt_cons_succ]
      exact hothers position
  constructor
  · rw [Browser.asked_eq, Browser.asked_eq, askedAt_take, askedAt_take, h, h']
    rfl
  · intro position
    rw [Browser.asked_eq, Browser.asked_eq, askedAt_take, askedAt_take, h, h']
    split
    · exact hall position
    · exact .inl rfl

theorem writtenFields_ne_nil (id : String) : writtenFields id ≠ [] := by
  rw [writtenFields, ne_eq, List.map_eq_nil_iff]
  exact List.splitOnP_ne_nil _ _

theorem Relaxed.asksNoMore {id id' : String} (h : Relaxed id id') : AsksNoMore id' id := by
  cases h with
  | blanked name others others' h h' hothers =>
    exact AsksNoMore.of_fields h h' (noMore_of_keptOrBlank hothers)
  | cut h =>
    -- A first field is always left, and it is the same.
    obtain ⟨name, others', h'⟩ := List.exists_cons_of_ne_nil (writtenFields_ne_nil id')
    obtain ⟨rest, hrest⟩ := h
    rw [h', List.cons_append] at hrest
    exact AsksNoMore.of_fields hrest.symm h' (noMore_of_isPrefix (List.prefix_append others' rest))

/-! ### Changes one after the other -/

open Relation

theorem asked_of_respelled {id id' : String} (h : ReflTransGen Respelled id id') (position : Nat) :
    asked id' position = asked id position := by
  induction h with
  | refl => rfl
  | tail _ hstep ih => exact (hstep.asked_eq position).trans ih

/-- An identifier and one that is written in another way, or says less. -/
def Changed (id id' : String) : Prop := Respelled id id' ∨ Relaxed id id'

theorem asksNoMore_of_changed {id id' : String} (h : ReflTransGen Changed id id') :
    AsksNoMore id' id := by
  induction h with
  | refl => exact AsksNoMore.of_eq fun _ => rfl
  | tail _ hstep ih =>
    rcases hstep with hrespelled | hrelaxed
    · exact (AsksNoMore.of_eq hrespelled.asked_eq).trans ih
    · exact hrelaxed.asksNoMore.trans ih

end Browser

open Browser Relation

/-- **How support depends on what is written.** It makes no difference to a listing if letters of an
identifier change their case, if there are more blanks around its fields, or if there are others
after the fourth. And what is supported stays so when fields other than the name become blank, when
fields are cut off at the end, and when there are more entries in the listing. This holds of any
number of such changes. -/
theorem supportsId_changed (listing : Listing) (id : String) :
    (∀ id', ReflTransGen Respelled id id' → listing.supportsId id' = listing.supportsId id) ∧
      ∀ id' larger, ReflTransGen Changed id id' → listing ⊆ larger →
        listing.supportsId id = true → larger.supportsId id' = true := by
  constructor
  · intro id' h
    exact supportsId_congr listing (asked_of_respelled h)
  · intro id' larger h hlarger hid
    exact (asksNoMore_of_changed h).supportsId hlarger hid

/-- A listing of one browser. -/
def desktopListing : Listing := [⟨some "ie", some "11", some "windows", some "7", none⟩]

/-- The same listing with a phone in front. -/
def grownListing : Listing :=
  ⟨none, none, some "ios", some "9.1", some "iPhone 6S"⟩ :: desktopListing

theorem supportsId_changed_desktop :
    let desktop := "IE,11,Windows,7"
    let respelled := " ie\t,11,\u2003windows,7,edge"
    let relaxed := " ie\t, ,\u2003windows"
    desktopListing.supportsId desktop = true ∧
      desktopListing.supportsId respelled = desktopListing.supportsId desktop ∧
      grownListing.supportsId relaxed = true := by
  intro desktop respelled relaxed
  have hdesktop : desktopListing.supportsId desktop = true := by decide +kernel
  have hrecased : Respelled desktop "ie,11,windows,7" := .recased (by decide +kernel)
  have hpadded : Respelled "ie,11,windows,7" " ie\t,11,\u2003windows,7" := by
    have hfields : writtenFields "ie,11,windows,7" = ["ie", "11", "windows", "7"] := by
      decide +kernel
    have hfields' : writtenFields " ie\t,11,\u2003windows,7" =
        [" ie\t", "11", "\u2003windows", "7"] := by decide +kernel
    have hsame : ∀ field, Padded field field := fun field => ⟨"", "", rfl, rfl, by simp⟩
    apply Respelled.padded
    rw [hfields, hfields']
    exact .cons ⟨" ", "\t", by decide +kernel⟩ (.cons (hsame _)
      (.cons ⟨"\u2003", "", by decide +kernel⟩ (.cons (hsame _) .nil)))
  have hsurplus : Respelled " ie\t,11,\u2003windows,7" respelled := .surplus (by decide +kernel)
  have hrespelled : ReflTransGen Respelled desktop respelled :=
    .head hrecased (.head hpadded (.single hsurplus))
  have hblanked : Relaxed respelled " ie\t, ,\u2003windows,7,edge" := by
    refine .blanked " ie\t" ["11", "\u2003windows", "7", "edge"]
      [" ", "\u2003windows", "7", "edge"] (by decide +kernel) (by decide +kernel) ?_
    exact .cons (.inr (by decide +kernel))
      (.cons (.inl rfl) (.cons (.inl rfl) (.cons (.inl rfl) .nil)))
  have hcut : Relaxed " ie\t, ,\u2003windows,7,edge" relaxed := .cut (by decide +kernel)
  have hwritten : ReflTransGen Changed desktop respelled :=
    hrespelled.lift (fun id => id) fun _ _ => .inl
  have hchanged : ReflTransGen Changed desktop relaxed :=
    (hwritten.tail (.inr hblanked)).tail (.inr hcut)
  obtain ⟨hequal, hkept⟩ := supportsId_changed desktopListing desktop
  exact ⟨hdesktop, hequal respelled hrespelled,
    hkept relaxed grownListing hchanged (List.subset_cons_self _ _) hdesktop⟩

/-- A name cannot be left out. -/
example : desktopListing.supportsId ",11" = false := by decide +kernel

end CrossBrowser
