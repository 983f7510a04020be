import CrossBrowser.Browser.Listing
import CrossBrowser.Document.Json.Readable
import CrossBrowser.Document.Json.Reader

/-! Listings of supported browsers as JSON documents hold them: an array with a record for each
entry, of which every field may be null or left out. -/
namespace CrossBrowser
open Document Readable

section
variable {ν : Type} {m : Type → Type} [Monad m] [Readable ν m]

/-- Reads an entry of a listing. -/
def ListedBrowser.read (v : ν) : m ListedBrowser := do
  let fields ← fields false ["browser", "browser_version", "os", "os_version", "device"] v
  let browser ← field fields "browser" none (optional text)
  let browserVersion ← field fields "browser_version" none (optional text)
  let os ← field fields "os" none (optional text)
  let osVersion ← field fields "os_version" none (optional text)
  let device ← field fields "device" none (optional text)
  return { browser, browserVersion, os, osVersion, device }

end

/-- The listing that a JSON text holds. -/
def Listing.ofJson? (source : String) : Option Listing := do
  list ListedBrowser.read (← Json.parse source)

end CrossBrowser
