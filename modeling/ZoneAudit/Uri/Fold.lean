/-!
Tabs and line breaks, at which a long URI may be folded.
-/

namespace ZoneAudit.Uri

def isFold (c : Char) : Bool := c = '\t' || c = '\n' || c = '\r'

def unfold (s : List Char) : List Char := s.filter (!isFold ·)

end ZoneAudit.Uri
