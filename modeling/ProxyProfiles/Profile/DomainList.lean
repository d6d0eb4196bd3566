import ProxyProfiles.Text.Blank
import ProxyProfiles.Text.Split
/-!
# Domain lists given as one text

Entries are separated by commas; blanks around an entry do not belong to it, and an entry of
nothing but blanks is no entry.
-/

namespace ProxyProfiles

open Text

/-- The entries of a domain list, as characters. -/
def domainEntries (s : List Char) : List (List Char) :=
  ((pieces ',' s).map trim).filter (· ≠ [])

/-- The entries of a domain list. -/
def parseDomainList (s : String) : List String :=
  (domainEntries s.toList).map String.ofList

end ProxyProfiles
