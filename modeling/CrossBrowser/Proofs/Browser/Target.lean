import CrossBrowser.Proofs.Provider.Categories
import Mathlib.Data.List.Infix

/-! Categories that were written for browsers, sorted again.

A browser is written as a category by putting the marker in front of its identifier. The markers in
a category are found from left to right, each after the end of the one before, so the one in front
is found first and the search goes on at the beginning of the identifier (`removeAll_append`). An
identifier without markers comes back as it is, and from plain categories and such identifiers in
any order `classify` gets back both (`classify_written`). -/
namespace CrossBrowser

/-! ### Removing a pattern -/

section
variable {α : Type} [DecidableEq α] {pattern : List α}

theorem removeAll_skip (front rest : List α) :
    removeAll pattern front.length (front ++ rest) = removeAll pattern 0 rest := by
  induction front with
  | nil => rfl
  | cons x front ih => exact ih

/-- An occurrence in front is removed, and what follows is searched as it stands. -/
theorem removeAll_append (hne : pattern ≠ []) (rest : List α) :
    removeAll pattern 0 (pattern ++ rest) = removeAll pattern 0 rest := by
  obtain ⟨x, others, rfl⟩ := List.exists_cons_of_ne_nil hne
  have hprefix : (x :: others).isPrefixOf (x :: (others ++ rest)) = true :=
    List.isPrefixOf_iff_prefix.mpr (List.prefix_append (x :: others) rest)
  rw [List.cons_append, removeAll, if_pos hprefix]
  exact removeAll_skip others rest

/-- Where the pattern does not occur nothing is removed. -/
theorem removeAll_of_not_infix {xs : List α} (h : ¬pattern <:+: xs) : removeAll pattern 0 xs = xs := by
  induction xs with
  | nil => rfl
  | cons x rest ih =>
    have hprefix : ¬pattern.isPrefixOf (x :: rest) = true :=
      fun hp => h (List.isPrefixOf_iff_prefix.mp hp).isInfix
    rw [removeAll, if_neg hprefix, ih fun hi => h (hi.trans (List.suffix_cons x rest).isInfix)]

end

/-- Whether an identifier has the marker of a browser in it. -/
def HasMarker (id : String) : Prop := browserMarker.toList <:+: id.toList

instance (id : String) : Decidable (HasMarker id) := inferInstanceAs (Decidable (_ <:+: _))

theorem withoutMarker_browserKey {id : String} (h : ¬HasMarker id) :
    withoutMarker (browserKey id) = id := by
  rw [withoutMarker, browserKey, String.toList_append, removeAll_append (by decide),
    removeAll_of_not_infix h, String.ofList_toList]

/-! ### Sorting what was written -/

/-- A plain category as it is, or a browser as the category that targets it. -/
def written : String ⊕ String → String := Sum.elim id browserKey

/-- A category that is plain indeed, or an identifier without a marker in it. -/
def Writable : String ⊕ String → Prop
  | .inl category => targetsBrowser category = false
  | .inr id => ¬HasMarker id

instance : DecidablePred Writable
  | .inl category => inferInstanceAs (Decidable (targetsBrowser category = false))
  | .inr id => inferInstanceAs (Decidable ¬HasMarker id)

theorem classify_cons (category : String) (rest : List String) :
    classify (category :: rest) =
      if targetsBrowser category then
        ⟨(classify rest).plain, withoutMarker category :: (classify rest).browsers⟩
      else ⟨category :: (classify rest).plain, (classify rest).browsers⟩ := by
  by_cases h : targetsBrowser category = true <;> simp [classify, h]

/-- Plain categories and browsers without markers, in any order, are sorted into the ones and the
others. -/
theorem classify_map_written (items : List (String ⊕ String))
    (h : ∀ item ∈ items, Writable item) :
    classify (items.map written) =
      ⟨items.filterMap Sum.getLeft?, items.filterMap Sum.getRight?⟩ := by
  induction items with
  | nil => rfl
  | cons item rest ih =>
    have hitem := h item List.mem_cons_self
    rw [List.map_cons, classify_cons, ih fun other hother => h other (List.mem_cons_of_mem item hother)]
    cases item with
    | inl category => exact if_neg (Bool.eq_false_iff.mp hitem)
    | inr id =>
      show (if targetsBrowser (browserKey id) then _ else _) = _
      rw [if_pos (targetsBrowser_browserKey id)]
      show Classified.mk _ (withoutMarker (browserKey id) :: _) = _
      rw [withoutMarker_browserKey hitem]
      rfl

/-- **Browsers that were written come back.** From plain categories and from browsers, written as
the categories that target them, in any order, sorting gives the plain categories and the
identifiers of the browsers, both in their order and with their repetitions, as long as no
identifier has the marker in it. A method without notes that takes these categories in targets the
browsers, each where it first comes. -/
theorem classify_written (items : List (String ⊕ String))
    (h : ∀ item ∈ items, Writable item) :
    classify (items.map written) =
        ⟨items.filterMap Sum.getLeft?, items.filterMap Sum.getRight?⟩ ∧
      ∀ (d : Draft) (m : TestMethod), m.metadata = .empty →
        (RemoteBrowser.provider.methodCategories d m (items.map written)).2.metadata.browsers =
          (items.filterMap Sum.getRight?).eraseDups := by
  have hclassify := classify_map_written items h
  refine ⟨hclassify, fun d m hm => ?_⟩
  show (RemoteBrowser.methodCategories m (items.map written)).metadata.browsers = _
  rw [RemoteBrowser.methodCategories_eq, hm, hclassify]
  show (Metadata.empty.noting (items.filterMap Sum.getRight?)).browsers = _
  rw [Metadata.noting_empty, Metadata.browsers_ofBrowsers, distinct_eq_eraseDups]
  simp

theorem classify_written_repeated :
    let items : List (String ⊕ String) :=
      [.inr "firefox,45.0", .inl "smoke", .inr "rowser:b", .inl "smoke", .inr "firefox,45.0"]
    items.map written =
        ["browser:firefox,45.0", "smoke", "browser:rowser:b", "smoke", "browser:firefox,45.0"] ∧
      classify (items.map written) =
        ⟨["smoke", "smoke"], ["firefox,45.0", "rowser:b", "firefox,45.0"]⟩ ∧
      (RemoteBrowser.provider.methodCategories (Draft.named "Pages" "SearchFeature")
        (.named "FindAPage") (items.map written)).2.metadata.browsers =
          ["firefox,45.0", "rowser:b"] := by
  intro items
  obtain ⟨hclassify, hbrowsers⟩ := classify_written items (by decide)
  exact ⟨by decide, hclassify, hbrowsers _ _ rfl⟩

end CrossBrowser
