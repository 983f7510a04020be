/-! Categories that target a browser.

A scenario's categories are free text. One whose first seven characters spell `browser`, in any
case, targets a browser, and the browser's identifier is what remains of the category without the
marker `browser:`. All other categories are plain. -/
namespace CrossBrowser

/-- The marker of a category that targets a browser. -/
def browserMarker : String := "browser:"

/-- The word that a category must begin with to target a browser. -/
def browserWord : String := "browser"

/-- Whether a category targets a browser: its first characters are those of the word, up to the
case of A to Z. Nothing after them matters. -/
def targetsBrowser (category : String) : Bool :=
  (category.toList.take browserWord.length).map Char.toLower == browserWord.toList

/-- A list without the occurrences of `pattern`, found from left to right; an occurrence begins
after the end of the one before. `skip` elements still belong to the last one found. -/
def removeAll {α : Type} [DecidableEq α] (pattern : List α) : Nat → List α → List α
  | _, [] => []
  | skip + 1, _ :: rest => removeAll pattern skip rest
  | 0, x :: rest =>
    if pattern.isPrefixOf (x :: rest) then removeAll pattern (pattern.length - 1) rest
    else x :: removeAll pattern 0 rest

/-- A category without its browser markers. A marker is written in lower case only. -/
def withoutMarker (category : String) : String :=
  String.ofList (removeAll browserMarker.toList 0 category.toList)

/-- The key under which a browser is recorded. -/
def browserKey (id : String) : String := browserMarker ++ id

/-- Categories sorted into those that target browsers and those that do not. -/
structure Classified where
  plain : List String
  browsers : List String
  deriving DecidableEq

/-- Sorts categories, keeping their order and repetitions. -/
def classify (categories : List String) : Classified where
  plain := categories.filter (!targetsBrowser ·)
  browsers := (categories.filter targetsBrowser).map withoutMarker

/-- Whether any of the categories targets a browser. -/
def Classified.hasBrowsers (c : Classified) : Bool := !c.browsers.isEmpty

theorem hasBrowsers_classify (categories : List String) :
    (classify categories).hasBrowsers = categories.any targetsBrowser := by
  induction categories with
  | nil => rfl
  | cons c rest ih =>
    by_cases h : targetsBrowser c = true
    · simp [Classified.hasBrowsers, classify, h]
    · simp only [Classified.hasBrowsers, classify] at ih ⊢
      simp [h, ← ih]

end CrossBrowser
