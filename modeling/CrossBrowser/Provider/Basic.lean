import CrossBrowser.Draft

/-! Providers: what a test framework does at each step of generating a class.

The generator decides what is tested, and in which order the steps come; a provider decides what
each step does to the draft of the class and to the method in hand. A provider keeps nothing to
itself, but its steps may have effects in `m`. -/
namespace CrossBrowser

/-- What a test framework does at each step of generating a class. -/
structure Provider (m : Type → Type) where
  /-- Begins the class, given the title and the description of the feature. -/
  beginClass : Draft → String → Option String → m Draft
  /-- Takes in the categories of the feature. -/
  classCategories : Draft → List String → m Draft
  /-- Sets up what runs once before the tests of the class. -/
  classInitialize : Draft → m Draft
  /-- Begins a method, given the title of the scenario. -/
  beginMethod : Draft → TestMethod → String → m (Draft × TestMethod)
  /-- Takes in the categories of the scenario. -/
  methodCategories : Draft → TestMethod → List String → m (Draft × TestMethod)
  /-- Takes in an example row: its cells, its tags and whether it is ignored. -/
  row : Draft → TestMethod → List String → List String → Bool → m (Draft × TestMethod)
  /-- Ends the class. -/
  endClass : Draft → m Draft

/-- The provider whose steps do nothing. -/
def Provider.idle : Provider Id where
  beginClass d _ _ := d
  classCategories d _ := d
  classInitialize d := d
  beginMethod d m _ := (d, m)
  methodCategories d m _ := (d, m)
  row d m _ _ _ := (d, m)
  endClass d := d

end CrossBrowser
