import ZoneAudit.Proofs.Malformed
import ZoneAudit.Proofs.Numerals

/-!
The verdict on a single record. Only errors count for it, so for aliases, starts of authority,
services and authorizations it comes down to conditions on the words of the body and on the zone: a
record that meets them is never invalid, and one that does not is never valid.
-/

namespace ZoneAudit
open Text

namespace Rule

/-- The rule finds no error on the record. -/
def Passes (rule : Rule) (r : Record) (z : Zone) : Prop := ∀ d ∈ rule r z, d.severity ≠ .error

variable {rule : Rule} {r : Record} {z : Zone}

theorem passes_of_none (h : rule r z = none) : rule.Passes r z := by simp [Passes, h]

theorem passes_iff_of_some {d : Diagnostic} (h : rule r z = some d) :
    rule.Passes r z ↔ d.severity ≠ .error := by
  simp [Passes, h]

/-- A rule that answers an error where a condition fails, and nothing where it holds, tests it. -/
theorem passes_iff_of_error {p : Prop} (hholds : p → rule r z = none)
    (hfails : ¬p → ∃ d ∈ rule r z, d.severity = .error) : rule.Passes r z ↔ p := by
  constructor
  · intro hpass
    by_contra hp
    obtain ⟨d, hd, herror⟩ := hfails hp
    exact hpass d hd herror
  · intro hp
    exact passes_of_none (hholds hp)

/-- A report is valid if and only if all of its rules pass. -/
theorem isValid_run {rules : List Rule} :
    (Report.ofList (run rules r z)).isValid ↔ ∀ rule ∈ rules, rule.Passes r z := by
  simp only [Report.isValid_ofList, run, List.mem_filterMap, Passes, Option.mem_def]
  constructor
  · intro h rule hrule d hd
    exact h d ⟨rule, hrule, hd⟩
  · rintro h d ⟨rule, hrule, hd⟩
    exact h rule hrule d hd

end Rule

/-! Services: four words, of which the first three are numbers. -/

namespace Srv

/-- What the body of a valid service looks like. -/
def Conforms (r : Record) : Prop :=
  ∃ priority weight port target : List Char,
    words r.data.toList = [priority, weight, port, target] ∧
    (∃ n, WritesUnsigned priority n ∧ n ≤ 65535) ∧
    (∃ n, WritesUnsigned weight n ∧ n ≤ 65535) ∧
    ∃ n, WritesUnsigned port n ∧ 1 ≤ n ∧ n ≤ 65535

variable {r : Record} {z : Zone} {b : Body}

theorem words_of_parse? {data : String} (h : parse? data = some b) : words data.toList = b.fields := by
  unfold parse? at h
  split at h
  case h_1 hwords =>
    obtain rfl := Option.some.inj h
    simp [hwords, Body.fields]
  case h_2 => cases h

theorem conforms_iff (h : parse? r.data = some b) :
    Conforms r ↔ (uint16? b.priority.toList).isSome ∧ (uint16? b.weight.toList).isSome ∧
      Address.isPort b.port.toList := by
  have hwords := words_of_parse? h
  have hport : ∀ c ∈ b.port.toList, isBlank c = false :=
    not_isBlank_of_mem_words (s := r.data.toList) (by simp [hwords, Body.fields])
  rw [isSome_uint16?_iff, isSome_uint16?_iff, isPort_iff hport, Conforms, hwords]
  simp [Body.fields]

theorem not_conforms (h : parse? r.data = none) : ¬Conforms r := by
  rintro ⟨_, _, _, _, hwords, -⟩
  simp [parse?, hwords] at h

theorem passes_iff (h : parse? r.data = some b) :
    (∀ rule ∈ rules, rule.Passes r z) ↔
      (uint16? b.priority.toList).isSome ∧ (uint16? b.weight.toList).isSome ∧
        Address.isPort b.port.toList := by
  have hformat : format.Passes r z := Rule.passes_of_none (by simp [format, onBody, h])
  have hpriority : priority.Passes r z ↔ (uint16? b.priority.toList).isSome :=
    Rule.passes_iff_of_error (fun hp => by simp [priority, onBody, h, hp])
      fun hp => ⟨(Fault.priority b.priority).diagnostic, by simp [priority, onBody, h, hp], rfl⟩
  have hweight : weight.Passes r z ↔ (uint16? b.weight.toList).isSome :=
    Rule.passes_iff_of_error (fun hp => by simp [weight, onBody, h, hp])
      fun hp => ⟨(Fault.weight b.weight).diagnostic, by simp [weight, onBody, h, hp], rfl⟩
  have hport : port.Passes r z ↔ Address.isPort b.port.toList :=
    Rule.passes_iff_of_error (fun hp => by simp [port, onBody, h, hp])
      fun hp => ⟨(Fault.port b.port).diagnostic, by simp [port, onBody, h, hp], rfl⟩
  have hservice : service.Passes r z := by
    intro d hd
    simp only [service, onBody, h, Option.mem_def, Option.map_eq_some_iff] at hd
    obtain ⟨f, hf, rfl⟩ := hd
    split at hf
    · cases hf
    · obtain rfl := Option.some.inj hf
      have hne : Severity.warning ≠ .error := by decide
      exact hne
  simp [rules, hformat, hpriority, hweight, hport, hservice]

theorem isValid_iff (r : Record) (z : Zone) : (report r z).isValid ↔ Conforms r := by
  rw [report, Rule.isValid_run]
  cases h : parse? r.data with
  | none =>
    refine iff_of_false (fun hpass => ?_) (not_conforms h)
    have hmalformed : Fault.malformed.diagnostic ∈ format r z := by simp [format, onBody, h]
    exact hpass format (by simp [rules]) _ hmalformed rfl
  | some b => rw [passes_iff h, conforms_iff h]

end Srv

/-! Starts of authority: seven words, of which the last five are numbers. -/

namespace Soa

/-- What the body of a valid start of authority looks like in a zone. -/
def Conforms (r : Record) (z : Zone) : Prop :=
  ∃ mname rname serial refresh retry expire minimum : List Char,
    words r.data.toList = [mname, rname, serial, refresh, retry, expire, minimum] ∧
    (∀ s ∈ [serial, refresh, retry, expire, minimum],
      ∃ n : Int, WritesSigned s n ∧ -9223372036854775808 ≤ n ∧ n ≤ 9223372036854775807) ∧
    (∃ address, Mailbox.ofRname? (String.ofList rname) = some address ∧
      Mailbox.isValid address.toList) ∧
    (∃ n : Int, WritesSigned serial n ∧ 0 ≤ n ∧ n ≤ 4294967295) ∧
    ∃ s ∈ z.fullRecords, s.type = .ns ∧
      DomainName.normal (trim s.data.toList) = DomainName.normal mname

variable {r : Record} {z : Zone} {b : Body}

theorem words_of_parse? {data : String} (h : parse? data = some b) :
    ∃ serial refresh retry expire minimum : List Char,
      words data.toList =
        [b.mname.toList, b.rname.toList, serial, refresh, retry, expire, minimum] ∧
      int64? serial = some b.serial ∧ int64? refresh = some b.refresh ∧
      int64? retry = some b.retry ∧ int64? expire = some b.expire ∧
      int64? minimum = some b.minimum := by
  unfold parse? at h
  split at h
  case h_1 serial refresh retry expire minimum hwords =>
    simp only [Option.bind_eq_bind, Option.bind_eq_some_iff, Option.pure_def,
      Option.some.injEq] at h
    obtain ⟨n, hn, f, hf, t, ht, e, he, m, hm, rfl⟩ := h
    exact ⟨serial, refresh, retry, expire, minimum, by simp [hwords], hn, hf, ht, he, hm⟩
  case h_2 => cases h

theorem not_conforms (h : parse? r.data = none) : ¬Conforms r z := by
  rintro ⟨mname, rname, serial, refresh, retry, expire, minimum, hwords, hint, -⟩
  have hread (s : List Char) (hs : s ∈ [serial, refresh, retry, expire, minimum]) :
      ∃ n, int64? s = some n :=
    Option.isSome_iff_exists.1 (isSome_int64?_iff.2 (hint s hs))
  obtain ⟨n, hn⟩ := hread serial (by simp)
  obtain ⟨f, hf⟩ := hread refresh (by simp)
  obtain ⟨t, ht⟩ := hread retry (by simp)
  obtain ⟨e, he⟩ := hread expire (by simp)
  obtain ⟨m, hm⟩ := hread minimum (by simp)
  simp [parse?, hwords, hn, hf, ht, he, hm] at h

theorem mem_nameServers {name : List Char} :
    name ∈ nameServers z ↔
      ∃ s ∈ z.fullRecords, s.type = .ns ∧ DomainName.normal (trim s.data.toList) = name := by
  simp [nameServers, Zone.fullOfType, and_assoc]

theorem conforms_iff (h : parse? r.data = some b) :
    Conforms r z ↔
      (∃ address, Mailbox.ofRname? b.rname = some address ∧ Mailbox.isValid address.toList) ∧
      (0 ≤ b.serial.toInt ∧ b.serial.toInt ≤ 4294967295) ∧
      DomainName.normal b.mname.toList ∈ nameServers z := by
  obtain ⟨serial, refresh, retry, expire, minimum, hwords, hserial, hothers⟩ := words_of_parse? h
  have hwrites := int64?_eq_some_iff.1 hserial
  rw [mem_nameServers, Conforms, hwords]
  constructor
  · rintro ⟨_, _, _, _, _, _, _, heq, -, hrname, ⟨n, hn, hrange⟩, hns⟩
    simp only [List.cons.injEq, and_true] at heq
    obtain ⟨rfl, rfl, rfl, -⟩ := heq
    obtain rfl := hn.unique hwrites
    exact ⟨by simpa using hrname, hrange, hns⟩
  · rintro ⟨hrname, hrange, hns⟩
    refine ⟨_, _, serial, refresh, retry, expire, minimum, rfl, fun s hs => ?_,
      by simpa using hrname, ⟨_, hwrites, hrange⟩, hns⟩
    rw [← isSome_int64?_iff]
    simp only [List.mem_cons, List.not_mem_nil, or_false] at hs
    obtain rfl | rfl | rfl | rfl | rfl := hs <;> simp [hserial, hothers]

theorem passes_rname (h : parse? r.data = some b) :
    rname.Passes r z ↔
      ∃ address, Mailbox.ofRname? b.rname = some address ∧ Mailbox.isValid address.toList := by
  refine Rule.passes_iff_of_error ?_ fun hfails => ?_
  · rintro ⟨address, haddress, hvalid⟩
    simp [rname, onBody, h, haddress, hvalid]
  · cases haddress : Mailbox.ofRname? b.rname with
    | none =>
      exact ⟨Fault.rnameWithoutDomain.diagnostic, by simp [rname, onBody, h, haddress], rfl⟩
    | some address =>
      have hinvalid : ¬Mailbox.isValid address.toList := fun hvalid =>
        hfails ⟨address, haddress, hvalid⟩
      exact ⟨(Fault.rnameInvalid b.rname).diagnostic,
        by simp [rname, onBody, h, haddress, hinvalid], rfl⟩

theorem passes_primary (h : parse? r.data = some b) :
    primary.Passes r z ↔ DomainName.normal b.mname.toList ∈ nameServers z := by
  refine Rule.passes_iff_of_error (fun hlisted => ?_) fun hunlisted => ?_
  · have hne : nameServers z ≠ [] := List.ne_nil_of_mem hlisted
    simp [primary, onBody, h, hne, hlisted]
  · by_cases hnil : nameServers z = []
    · exact ⟨Fault.noNameServers.diagnostic, by simp [primary, onBody, h, hnil], rfl⟩
    · exact ⟨(Fault.primaryUnlisted (String.ofList (DomainName.normal b.mname.toList))).diagnostic,
        by simp [primary, onBody, h, hnil, hunlisted], rfl⟩

theorem passes_iff (h : parse? r.data = some b) :
    (∀ rule ∈ rules, rule.Passes r z) ↔
      (∃ address, Mailbox.ofRname? b.rname = some address ∧ Mailbox.isValid address.toList) ∧
      (0 ≤ b.serial.toInt ∧ b.serial.toInt ≤ 4294967295) ∧
      DomainName.normal b.mname.toList ∈ nameServers z := by
  have hserial : serial.Passes r z ↔ 0 ≤ b.serial.toInt ∧ b.serial.toInt ≤ 4294967295 :=
    Rule.passes_iff_of_error (fun hp => by simp [serial, onBody, h, hp])
      fun hp => ⟨(Fault.serialOutOfRange b.serial).diagnostic, by simp [serial, onBody, h, hp], rfl⟩
  have hminimum : minimum.Passes r z := by
    intro d hd
    simp only [minimum, onBody, h, Option.mem_def, Option.map_eq_some_iff] at hd
    obtain ⟨f, hf, rfl⟩ := hd
    split at hf
    · obtain rfl := Option.some.inj hf
      have hne : Severity.warning ≠ .error := by decide
      exact hne
    · split at hf
      · obtain rfl := Option.some.inj hf
        have hne : Severity.warning ≠ .error := by decide
        exact hne
      · cases hf
  simp [rules, passes_rname h, hserial, passes_primary h, hminimum]

theorem isValid_iff (r : Record) (z : Zone) : (report r z).isValid ↔ Conforms r z := by
  rw [report, Rule.isValid_run]
  cases h : parse? r.data with
  | none =>
    refine iff_of_false (fun hpass => ?_) (not_conforms h)
    have hmalformed : Fault.malformed.diagnostic ∈ rname r z := by simp [rname, onBody, h]
    exact hpass rname (by simp [rules]) _ hmalformed rfl
  | some b => rw [passes_iff h, conforms_iff h]

end Soa

/-! Authorizations: a body that parses, with a known tag. -/

namespace Caa

/-- What a valid authorization looks like. -/
def Conforms (r : Record) : Prop :=
  ∃ b, parse? r.data = some b ∧
    b.tag ∈ ["issue", "issuewild", "iodef", "contactemail", "contactphone"] ∧
    (b.tag = "iodef" →
      ∃ uri, Uri.parse? b.value = some uri ∧ uri.scheme ∈ ["mailto", "http", "https"])

variable {r : Record} {z : Zone} {b : Body}

theorem passes_tag (h : parse? r.data = some b) : tag.Passes r z ↔ b.tag ∈ tags :=
  Rule.passes_iff_of_error (fun hp => by simp [tag, h, hp])
    fun hp => ⟨(Fault.unknownTag b.tag).diagnostic, by simp [tag, h, hp], rfl⟩

/-- An authority that is not known is only remarked on. -/
theorem passes_issuer (r : Record) (z : Zone) : issuer.Passes r z := by
  intro d hd
  simp only [issuer, onBody, Option.mem_def, Option.bind_eq_some_iff, Option.map_eq_some_iff] at hd
  obtain ⟨b, -, f, hf, rfl⟩ := hd
  split at hf
  · cases hf
  · split at hf
    · cases hf
    · obtain rfl := Option.some.inj hf
      have hne : Severity.info ≠ .error := by decide
      exact hne

theorem passes_iodef (h : parse? r.data = some b) :
    iodef.Passes r z ↔ (b.tag = "iodef" →
      ∃ uri, Uri.parse? b.value = some uri ∧ uri.scheme ∈ reportSchemes) := by
  have hscheme : (Uri.parse? b.value).any (reportSchemes.contains ·.scheme) ↔
      ∃ uri, Uri.parse? b.value = some uri ∧ uri.scheme ∈ reportSchemes := by
    simp [Option.any_eq_true]
  rw [← hscheme]
  by_cases htag : b.tag = "iodef"
  · refine Rule.passes_iff_of_error (fun hp => ?_) fun hp => ?_
    · simpa [iodef, onBody, h, htag] using hp htag
    · have hnone : ¬(Uri.parse? b.value).any (reportSchemes.contains ·.scheme) := fun hs =>
        hp fun _ => hs
      exact ⟨(Fault.reportTarget b.value).diagnostic,
        by simpa [iodef, onBody, h, htag] using hnone, rfl⟩
  · refine iff_of_true (Rule.passes_of_none ?_) fun hiodef => absurd hiodef htag
    simp [iodef, onBody, h, htag]

theorem isValid_iff (r : Record) (z : Zone) : (report r z).isValid ↔ Conforms r := by
  have hrules : (∀ rule ∈ rules, rule.Passes r z) ↔ tag.Passes r z ∧ iodef.Passes r z := by
    simp [rules, passes_issuer]
  rw [report, Rule.isValid_run, hrules, Conforms]
  cases h : parse? r.data with
  | none =>
    refine iff_of_false (fun hpass => ?_) (by simp)
    have hmalformed : Fault.malformed.diagnostic ∈ tag r z := by simp [tag, h]
    exact hpass.1 _ hmalformed rfl
  | some b =>
    rw [passes_tag h, passes_iodef h]
    simp [tags, reportSchemes]

end Caa

/-! Aliases: a target apart from the owner, and an owner apart from the apex and from other records.
-/

namespace Cname

/-- What a valid alias looks like in a zone. -/
def Conforms (r : Record) (z : Zone) : Prop :=
  ∃ b, parse? r.data = some b ∧ b.target.toList ≠ DomainName.normal r.name.toList ∧
    DomainName.normal r.name.toList ≠ DomainName.normal z.domain.toList ∧
    ∀ s ∈ z.fullRecords, DomainName.normal s.name.toList = DomainName.normal r.name.toList →
      s.type ∈ [.cname, .rrsig, .nsec, .nsec3, .dnskey]

variable {r : Record} {z : Zone}

theorem passes_format :
    format.Passes r z ↔
      ∃ b, parse? r.data = some b ∧ b.target.toList ≠ DomainName.normal r.name.toList := by
  have hshown (t : String) :
      t = DomainName.shown r.name ↔ t.toList = DomainName.normal r.name.toList := by
    rw [DomainName.shown, ← String.toList_inj, String.toList_ofList]
  refine Rule.passes_iff_of_error ?_ fun hp => ?_
  · rintro ⟨b, h, hne⟩
    simp [format, h, hshown, hne]
  · cases h : parse? r.data with
    | none => exact ⟨Fault.malformed.diagnostic, by simp [format, h], rfl⟩
    | some b =>
      have htarget : b.target.toList = DomainName.normal r.name.toList := by
        by_contra hne
        exact hp ⟨b, h, hne⟩
      exact ⟨(Fault.selfTarget b.target).diagnostic, by simp [format, h, hshown, htarget], rfl⟩

theorem passes_apex :
    apex.Passes r z ↔ DomainName.normal r.name.toList ≠ DomainName.normal z.domain.toList :=
  Rule.passes_iff_of_error (fun hp => by simp [apex, DomainName.same, hp])
    fun hp => ⟨Fault.apex.diagnostic, by simpa [apex, DomainName.same] using hp, rfl⟩

theorem passes_coexistence :
    coexistence.Passes r z ↔
      ∀ s ∈ z.fullRecords, DomainName.normal s.name.toList = DomainName.normal r.name.toList →
        s.type ∈ [.cname, .rrsig, .nsec, .nsec3, .dnskey] := by
  refine Rule.passes_iff_of_error (fun hp => ?_) fun hp => ?_
  · rw [coexistence_eq, if_neg]
    rintro ⟨s, hs, hsame, htype⟩
    exact htype (hp s hs hsame)
  · refine ⟨(Fault.coexistence (conflicts r.name z)).diagnostic, ?_, rfl⟩
    rw [coexistence_eq, if_pos]
    · rfl
    · by_contra hnone
      refine hp fun s hs hsame => ?_
      by_contra htype
      exact hnone ⟨s, hs, hsame, htype⟩

theorem isValid_iff (r : Record) (z : Zone) : (report r z).isValid ↔ Conforms r z := by
  have hrules : (∀ rule ∈ rules, rule.Passes r z) ↔
      format.Passes r z ∧ apex.Passes r z ∧ coexistence.Passes r z := by
    simp [rules]
  rw [report, Rule.isValid_run, hrules, passes_format, passes_apex, passes_coexistence, Conforms]
  constructor
  · rintro ⟨⟨b, hb, htarget⟩, hothers⟩
    exact ⟨b, hb, htarget, hothers⟩
  · rintro ⟨b, hb, htarget, hothers⟩
    exact ⟨⟨b, hb, htarget⟩, hothers⟩

end Cname

/-- The verdict on a service, a start of authority, an authorization or an alias is exact: a record
is valid if and only if it conforms. -/
theorem Kind.isValid_iff_conforms (r : Record) (z : Zone) :
    ((srv.report r z).isValid ↔ Srv.Conforms r) ∧
    ((soa.report r z).isValid ↔ Soa.Conforms r z) ∧
    ((caa.report r z).isValid ↔ Caa.Conforms r) ∧
    ((cname.report r z).isValid ↔ Cname.Conforms r z) :=
  ⟨Srv.isValid_iff r z, Soa.isValid_iff r z, Caa.isValid_iff r z, Cname.isValid_iff r z⟩

end ZoneAudit
