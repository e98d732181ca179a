import ZoneAudit.InputError
import ZoneAudit.Text.Blank
import ZoneAudit.Text.Case

/-!
The record types that an audit knows. The four DNSSEC types are only carried along.
-/

namespace ZoneAudit

inductive RecordType
  | a
  | ns
  | cname
  | soa
  | mx
  | txt
  | aaaa
  | srv
  | caa
  | rrsig
  | nsec
  | nsec3
  | dnskey
  deriving DecidableEq, Repr

namespace RecordType

/-- Every type, by increasing code. -/
def all : List RecordType :=
  [a, ns, cname, soa, mx, txt, aaaa, srv, rrsig, nsec, dnskey, nsec3, caa]

theorem mem_all (t : RecordType) : t ∈ all := by cases t <;> decide

/-- The registered number of the type. -/
def code : RecordType → UInt16
  | a => 1
  | ns => 2
  | cname => 5
  | soa => 6
  | mx => 15
  | txt => 16
  | aaaa => 28
  | srv => 33
  | rrsig => 46
  | nsec => 47
  | dnskey => 48
  | nsec3 => 50
  | caa => 257

def mnemonic : RecordType → String
  | a => "A"
  | ns => "NS"
  | cname => "CNAME"
  | soa => "SOA"
  | mx => "MX"
  | txt => "TXT"
  | aaaa => "AAAA"
  | srv => "SRV"
  | caa => "CAA"
  | rrsig => "RRSIG"
  | nsec => "NSEC"
  | nsec3 => "NSEC3"
  | dnskey => "DNSKEY"

theorem mnemonic_inj {t u : RecordType} : t.mnemonic = u.mnemonic ↔ t = u := by
  constructor
  · have h : ∀ t ∈ all, ∀ u ∈ all, t.mnemonic = u.mnemonic → t = u := by decide +kernel
    exact h t (mem_all t) u (mem_all u)
  · rintro rfl
    rfl

def ofCode (code : UInt16) : Except InputError RecordType :=
  match all.find? (·.code = code) with
  | some t => .ok t
  | none => .error (.unknownTypeCode code)

/-- Reads a mnemonic in any case, with blanks around it. -/
def ofMnemonic (s : String) : Except InputError RecordType :=
  match all.find? fun t => t.mnemonic.toList = Text.upper (Text.trim s.toList) with
  | some t => .ok t
  | none => .error (.unsupportedRecordType s)

end RecordType
end ZoneAudit
