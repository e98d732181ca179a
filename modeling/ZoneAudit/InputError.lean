/-!
Why input from outside is refused. Checks on zone data never fail; only conversions do.
-/

namespace ZoneAudit

inductive InputError
  | unsupportedRecordType (mnemonic : String)
  | unknownTypeCode (code : UInt16)
  | invalidAnswer
  | invalidOptions
  deriving DecidableEq, Repr

def InputError.message : InputError → String
  | .unsupportedRecordType s => "Unsupported DNS record type: " ++ s
  | .unknownTypeCode n => "Unknown DNS record type code: " ++ toString n.toNat
  | .invalidAnswer => "Invalid DNS answer"
  | .invalidOptions => "Invalid validator options"

end ZoneAudit
