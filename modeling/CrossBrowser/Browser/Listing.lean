import CrossBrowser.Browser.Identifier
import CrossBrowser.Text.LetterCase

/-! Listings of supported browsers.

A listing is a table of browsers that can be run on. A browser is supported when some entry agrees
with everything the browser's identifier gives. -/
namespace CrossBrowser

/-- One entry of a listing. -/
structure ListedBrowser where
  browser : Option String
  browserVersion : Option String
  os : Option String
  osVersion : Option String
  device : Option String
  deriving DecidableEq

/-- The browsers that are supported. -/
abbrev Listing := List ListedBrowser

namespace ListedBrowser

/-- Whether an entry has the wanted value, up to the case of A to Z. -/
def has (entry : Option String) (wanted : String) : Bool :=
  entry.any (Text.agreeIgnoringCase · wanted)

/-- Whether an entry has the wanted value, if one is wanted at all. -/
def satisfies (entry wanted : Option String) : Bool := wanted.all (has entry ·)

/-- Whether the entry agrees with everything given about a browser. A name may name the device, and
so may the field after it: mobile browsers are written `browser,device`. -/
def accepts (entry : ListedBrowser) (b : Browser) : Bool :=
  (has entry.browser b.name || has entry.device b.name) &&
    (satisfies entry.browserVersion b.version || satisfies entry.device b.version) &&
    satisfies entry.os b.os && satisfies entry.osVersion b.osVersion

end ListedBrowser

namespace Listing

/-- Whether some entry agrees with everything given about a browser. -/
def supports (listing : Listing) (b : Browser) : Bool := listing.any (·.accepts b)

/-- Whether the browser an identifier names is supported. An identifier without a name is not. -/
def supportsId (listing : Listing) (id : String) : Bool := (Browser.ofId? id).any listing.supports

end Listing
end CrossBrowser
