import Mathlib.Data.List.TakeWhile
import ZoneAudit.Proofs.Fallback

/-!
Bodies that do not parse. Every rule reads the body of a record on its own: on one that does not
parse it either says so, each time with the same error, or is silent. The rules that do not need the
body still answer, so the number of errors depends on the kind and, for some kinds, on the zone.
-/

namespace ZoneAudit
open Text

/-- The findings of errors alone are a report without warnings, invalid if there are any. -/
theorem Report.ofList_errors {ds : List Diagnostic} (h : ∀ d ∈ ds, d.isError) (hne : ds ≠ []) :
    ofList ds = ⟨false, [], ds⟩ := by
  obtain ⟨d, hd⟩ := List.exists_mem_of_ne_nil ds hne
  have hany : ds.any Diagnostic.isError = true := List.any_eq_true.2 ⟨d, hd, h d hd⟩
  have hwarnings : ds.filter (!·.isError) = [] :=
    List.filter_eq_nil_iff.2 fun d hd => by simp [h d hd]
  rw [ofList, hany, hwarnings, List.filter_eq_self.2 h]
  rfl

/-- Nothing is left of a text between its blanks if and only if it has nothing but blanks. -/
theorem Text.trim_eq_nil_iff {s : List Char} : trim s = [] ↔ s.all isBlank := by
  rw [trim, trimEnd, trimStart, List.reverse_eq_nil_iff, List.dropWhile_eq_nil_iff,
    List.all_eq_true]
  constructor
  · intro h c hc
    rw [← List.takeWhile_append_dropWhile (p := isBlank) (l := s), List.mem_append] at hc
    rcases hc with hc | hc
    · exact List.mem_takeWhile_imp hc
    · exact h c (List.mem_reverse.2 hc)
  · intro h c hc
    exact h c ((List.dropWhile_suffix _).mem (List.mem_reverse.1 hc))

/-- An alias clashes with records of its name that are neither aliases nor signatures. -/
theorem Cname.coexistence_eq (r : Record) (z : Zone) :
    Cname.coexistence r z =
      if ∃ s ∈ z.fullRecords, DomainName.normal s.name.toList = DomainName.normal r.name.toList ∧
          s.type ∉ [.cname, .rrsig, .nsec, .nsec3, .dnskey] then
        some (Fault.coexistence (conflicts r.name z)).diagnostic
      else none := by
  have hclash : (∃ s ∈ z.fullRecords,
      DomainName.normal s.name.toList = DomainName.normal r.name.toList ∧
        s.type ∉ [.cname, .rrsig, .nsec, .nsec3, .dnskey]) ↔ conflicts r.name z ≠ [] := by
    simp [conflicts_eq_nil, DomainName.same, coexisting]
  simp only [hclash, coexistence]
  cases conflicts r.name z with
  | nil => rfl
  | cons t ts => rfl

/-! What the rules of a kind find on a body that its parser refuses. -/

section

variable {r : Record}

theorem Cname.run_malformed (h : Cname.parse? r.data = none) (z : Zone) :
    Rule.run Cname.rules r z =
      Fault.malformed.diagnostic ::
        ((Cname.apex r z).toList ++ (Cname.coexistence r z).toList) := by
  simp [Cname.rules, Cname.format, h]

theorem Mx.run_malformed (h : Mx.parse? r.data = none) (z : Zone) :
    Rule.run Mx.rules r z = List.replicate 2 Fault.malformed.diagnostic := by
  simp [Mx.rules, Mx.nullExchange, Mx.target, h, List.replicate]

/-- The tracker refuses the body, too, where it looks at priorities at all. -/
theorem Mx.findings_malformed (h : Mx.parse? r.data = none) (t : Mx.Tracker) (z : Zone) :
    Mx.findings t r z =
      List.replicate (if Mx.tracked z then 3 else 2) Fault.malformed.diagnostic := by
  rw [Mx.findings, Mx.run_malformed h, Tracker.check, h]
  cases Mx.tracked z <;> rfl

theorem Soa.run_malformed (h : Soa.parse? r.data = none) (z : Zone) :
    Rule.run Soa.rules r z = List.replicate 4 Fault.malformed.diagnostic := by
  have hbody (check : Soa.Body → Zone → Option Soa.Fault) :
      Soa.onBody check r z = some Fault.malformed.diagnostic := by
    rw [Soa.onBody, h]
  simp [Soa.rules, Soa.rname, Soa.serial, Soa.primary, Soa.minimum, hbody, List.replicate]

theorem Spf.run_malformed (h : Spf.parse? r.data = none) (z : Zone) :
    Rule.run Spf.rules r z = Fault.malformed.diagnostic :: (Spf.multiple r z).toList := by
  have hsilent (check : Spf.Policy → Option Spf.Fault) : Spf.onPolicy check r z = none := by
    rw [Spf.onPolicy, h, Option.bind_none]
  simp [Spf.rules, Spf.form, Spf.addresses, Spf.senders, Spf.pointers, Spf.lookupLimit, h, hsilent]

theorem Dmarc.run_malformed (h : Dmarc.parse? r.data = none) (z : Zone) :
    Rule.run Dmarc.rules r z = (Dmarc.body r z).toList ++ [Fault.malformed.diagnostic] := by
  have hsilent (check : Dmarc.Policy → Option Dmarc.Fault) : Dmarc.onPolicy check r z = none := by
    rw [Dmarc.onPolicy, h, Option.bind_none]
  simp [Dmarc.rules, Dmarc.form, Dmarc.alignment, Dmarc.reporting, Dmarc.settings, h, hsilent]

theorem Srv.run_malformed (h : Srv.parse? r.data = none) (z : Zone) :
    Rule.run Srv.rules r z = List.replicate 5 Fault.malformed.diagnostic := by
  have hbody (check : Srv.Body → Record → Option Srv.Fault) :
      Srv.onBody check r z = some Fault.malformed.diagnostic := by
    rw [Srv.onBody, h]
  simp [Srv.rules, Srv.format, Srv.priority, Srv.weight, Srv.port, Srv.service, hbody,
    List.replicate]

theorem Caa.run_malformed (h : Caa.parse? r.data = none) (z : Zone) :
    Rule.run Caa.rules r z = [Fault.malformed.diagnostic] := by
  have hsilent (check : Caa.Body → Option Caa.Fault) : Caa.onBody check r z = none := by
    rw [Caa.onBody, h, Option.bind_none]
  simp [Caa.rules, Caa.tag, Caa.issuer, Caa.iodef, h, hsilent]

end

namespace Kind

/-- Whether the parser of a kind reads a body. -/
def reads : Kind → String → Bool
  | cname, data => (Cname.parse? data).isSome
  | mx, data => (Mx.parse? data).isSome
  | soa, data => (Soa.parse? data).isSome
  | spf, data => (Spf.parse? data).isSome
  | dmarc, data => (Dmarc.parse? data).isSome
  | srv, data => (Srv.parse? data).isSome
  | caa, data => (Caa.parse? data).isSome

/-- The errors on a record whose body does not parse, in order. -/
def refusals : Kind → Record → Zone → List Diagnostic
  | cname, r, z =>
    .error "Invalid CNAME record format - target must be a valid domain name" ::
      ((if DomainName.normal r.name.toList = DomainName.normal z.domain.toList then
        [.error "CNAME record not allowed at apex/root domain - use A/AAAA records instead"]
      else []) ++
      if ∃ s ∈ z.fullRecords, DomainName.normal s.name.toList = DomainName.normal r.name.toList ∧
          s.type ∉ [.cname, .rrsig, .nsec, .nsec3, .dnskey] then
        [(Diagnostic.error
          "CNAME record cannot coexist with other record types for the same name").note
          "conflictingTypes" (.ofTexts ((Cname.conflicts r.name z).map RecordType.mnemonic))]
      else [])
  | mx, _, z =>
    List.replicate (if 1 < z.whole.countP (·.type = .mx) then 3 else 2)
      (.error "Invalid null MX format (RFC 7505)")
  | soa, _, _ => List.replicate 4 (.error "Invalid SOA record format")
  | spf, _, z =>
    .error "Invalid SPF record format" ::
      if 1 < z.whole.countP Spf.isPolicy then
        [(Diagnostic.error
          "Multiple SPF records found - this may cause issues with email delivery").note
          "count" (.int (z.whole.countP Spf.isPolicy))]
      else []
  | dmarc, r, _ =>
    (if r.data.toList.all isBlank then [.error "No DMARC record found at _dmarc subdomain"]
      else []) ++ [.error "Invalid DMARC record format"]
  | srv, _, _ => List.replicate 5 (.error "Invalid SRV record format")
  | caa, _, _ => [.error "Invalid CAA tag format"]

theorem isError_of_mem_refusals {k : Kind} {r : Record} {z : Zone} {d : Diagnostic}
    (hd : d ∈ k.refusals r z) : d.isError := by
  cases k <;>
    simp only [refusals, List.mem_cons, List.mem_append, List.mem_ite_nil_right, List.mem_replicate,
      List.not_mem_nil, or_false] at hd
  case cname =>
    obtain rfl | ⟨-, rfl⟩ | ⟨-, rfl⟩ := hd <;> rfl
  case spf =>
    obtain rfl | ⟨-, rfl⟩ := hd <;> rfl
  case dmarc =>
    obtain ⟨-, rfl⟩ | rfl := hd <;> rfl
  case caa =>
    obtain rfl := hd
    rfl
  all_goals
    obtain ⟨-, rfl⟩ := hd
    rfl

theorem refusals_ne_nil (k : Kind) (r : Record) (z : Zone) : k.refusals r z ≠ [] := by
  cases k with
  | mx =>
    rw [refusals]
    split <;> simp
  | _ => simp [refusals]

/-- A body that its parser refuses makes a record invalid: each rule that needs the body reports it
or is silent, and the others still answer. -/
theorem report_of_malformed {k : Kind} {r : Record} (h : k.reads r.data = false) (z : Zone) :
    k.report r z = ⟨false, [], k.refusals r z⟩ := by
  rw [← Report.ofList_errors (fun _ => isError_of_mem_refusals) (k.refusals_ne_nil r z)]
  have hnone {α : Type} {o : Option α} (ho : o.isSome = false) : o = none := by simpa using ho
  cases k with
  | cname =>
    rw [report, Cname.report, Cname.run_malformed (hnone h), Cname.apex, Cname.coexistence_eq,
      refusals]
    simp only [DomainName.same, decide_eq_true_eq]
    split <;> split <;> rfl
  | mx =>
    rw [report, Mx.report, Mx.findings_malformed (hnone h), refusals, Mx.tracked]
    simp only [decide_eq_true_eq]
    rfl
  | soa => exact congrArg Report.ofList (Soa.run_malformed (hnone h) z)
  | spf =>
    rw [report, Spf.report, Spf.run_malformed (hnone h), Spf.multiple, refusals]
    split <;> rfl
  | dmarc =>
    rw [report, Dmarc.report, Dmarc.run_malformed (hnone h), Dmarc.body, refusals]
    simp only [Text.trim_eq_nil_iff]
    split <;> rfl
  | srv => exact congrArg Report.ofList (Srv.run_malformed (hnone h) z)
  | caa => exact congrArg Report.ofList (Caa.run_malformed (hnone h) z)

/-- An alias of no name at all, at the apex and beside an address, has three errors. -/
theorem report_of_malformed_apex :
    let r : Record := ⟨.cname, "example.com", 3600, "-"⟩
    let z : Zone := ⟨"Example.com", [r], some [r, ⟨.a, "example.com.", 3600, "192.0.2.1"⟩]⟩
    cname.reads r.data = false ∧
    cname.report r z = ⟨false, [], cname.refusals r z⟩ ∧
    (cname.refusals r z).map (·.message) =
      ["Invalid CNAME record format - target must be a valid domain name",
        "CNAME record not allowed at apex/root domain - use A/AAAA records instead",
        "CNAME record cannot coexist with other record types for the same name"] := by
  intro r z
  have h : cname.reads r.data = false := by decide +kernel
  exact ⟨h, report_of_malformed h z, by decide +kernel⟩

end Kind
end ZoneAudit
