import ZoneAudit.RecordType
import ZoneAudit.DomainName

/-!
Records and the zone that they are audited in.
-/

namespace ZoneAudit

/-- A record as it was fetched; `data` is the body in the form of its type. -/
structure Record where
  type : RecordType
  name : String
  ttl : UInt32
  data : String
  deriving DecidableEq, Repr

/-- The records under audit and, where it is known, all of the zone at `domain`. -/
structure Zone where
  domain : String
  records : List Record
  allRecords : Option (List Record) := none
  deriving DecidableEq, Repr

namespace Zone

/-- The records of the full zone; none if it is not known. -/
def fullRecords (z : Zone) : List Record := z.allRecords.getD []

/-- The full zone, for which the records under audit stand in if it is not known. -/
def whole (z : Zone) : List Record := z.allRecords.getD z.records

def fullOfType (z : Zone) (t : RecordType) : List Record := z.fullRecords.filter (·.type = t)

end Zone
end ZoneAudit
