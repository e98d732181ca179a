import ZoneAudit.Proofs.NameSpelling
import ZoneAudit.Proofs.Walk

/-!
Zones whose names are spelled in another way: the domain and the owners of records may change the
case of their letters and gain a root dot. Every rule compares names in normal form or looks at
parts of them that spelling does not touch. So an audit finds the same in both zones, but for the
one warning that shows the owner as it is written.
-/

namespace ZoneAudit
open Text

namespace DomainName

/-- `b` spells `a` in other letter case or with a root dot more. A star alone takes no root dot,
with which it would start a wildcard. -/
def Respelled (a b : String) : Prop :=
  Recased a.toList b.toList ∨
    a.toList.getLast? ≠ some '.' ∧ a ≠ "*" ∧ Recased (a.toList ++ ['.']) b.toList

instance : DecidableRel Respelled := fun a b =>
  inferInstanceAs (Decidable (Recased a.toList b.toList ∨
    a.toList.getLast? ≠ some '.' ∧ a ≠ "*" ∧ Recased (a.toList ++ ['.']) b.toList))

variable {a b : String}

theorem Respelled.normal_eq (h : Respelled a b) : normal a.toList = normal b.toList := by
  rcases h with h | ⟨hdot, -, h⟩
  · exact normal_recased h
  · rw [← normal_recased h, normal_append_dot hdot]

theorem Respelled.isWildcard_eq (h : Respelled a b) :
    isWildcard a.toList = isWildcard b.toList := by
  rcases h with h | ⟨-, hstar, h⟩
  · exact isWildcard_recased h
  · have hne : a.toList ≠ ['*'] := fun ha => hstar (String.toList_inj.1 ha)
    rw [← isWildcard_recased h, isWildcard_append_dot hne]

theorem Respelled.isServiceName_eq (h : Respelled a b) :
    Srv.isServiceName a.toList = Srv.isServiceName b.toList := by
  rcases h with h | ⟨-, -, h⟩
  · exact Srv.isServiceName_recased h
  · rw [← Srv.isServiceName_recased h, Srv.isServiceName_append_dot]

end DomainName

/-- The same record, but for the spelling of its owner. -/
structure Record.Respelled (r s : Record) : Prop where
  type : r.type = s.type
  name : DomainName.Respelled r.name s.name
  ttl : r.ttl = s.ttl
  data : r.data = s.data

/-- The same zone, but for the spelling of its domain and of the owners of its records. -/
structure Zone.Respelled (z w : Zone) : Prop where
  domain : DomainName.Respelled z.domain w.domain
  records : List.Forall₂ Record.Respelled z.records w.records
  allRecords : Option.Rel (List.Forall₂ Record.Respelled) z.allRecords w.allRecords

instance : DecidableRel Record.Respelled := fun r s =>
  decidable_of_iff
    (r.type = s.type ∧ DomainName.Respelled r.name s.name ∧ r.ttl = s.ttl ∧ r.data = s.data)
    ⟨fun ⟨ht, hn, hl, hd⟩ => ⟨ht, hn, hl, hd⟩, fun ⟨ht, hn, hl, hd⟩ => ⟨ht, hn, hl, hd⟩⟩

/-! What is read of respelled records, one by one, is equal if it is equal on each of them. -/

section

variable {rs ss : List Record}

theorem Record.Respelled.map_eq {β : Type} {f g : Record → β}
    (h : List.Forall₂ Record.Respelled rs ss) (hfg : ∀ r s, r.Respelled s → f r = g s) :
    rs.map f = ss.map g := by
  rw [← List.forall₂_eq_eq_eq, List.forall₂_map_left_iff, List.forall₂_map_right_iff]
  exact h.imp hfg

theorem Record.Respelled.any_eq {p q : Record → Bool}
    (h : List.Forall₂ Record.Respelled rs ss) (hpq : ∀ r s, r.Respelled s → p r = q s) :
    rs.any p = ss.any q := by
  simpa [List.any_map, Function.comp_def] using congrArg (List.any · id) (map_eq h hpq)

theorem Record.Respelled.countP_eq {p q : Record → Bool}
    (h : List.Forall₂ Record.Respelled rs ss) (hpq : ∀ r s, r.Respelled s → p r = q s) :
    rs.countP p = ss.countP q := by
  simpa [List.countP_map, Function.comp_def] using congrArg (List.countP id) (map_eq h hpq)

end

/-! The tests of a record that look at its owner. -/

section

variable {z w : Zone} {r s : Record}

theorem Mx.isMx_respelled (h : r.Respelled s) : Mx.isMx r = Mx.isMx s := by
  rw [Mx.isMx, Mx.isMx, h.type]

theorem Spf.isPolicy_respelled (h : r.Respelled s) : Spf.isPolicy r = Spf.isPolicy s := by
  rw [Spf.isPolicy, Spf.isPolicy, h.type, h.data]

theorem Dmarc.isMailRecord_respelled (h : r.Respelled s) :
    Dmarc.isMailRecord r = Dmarc.isMailRecord s := by
  rw [Dmarc.isMailRecord, Dmarc.isMailRecord, h.type, Spf.isPolicy_respelled h]

theorem Dmarc.isDomainPolicy_respelled (hz : z.Respelled w) (h : r.Respelled s) :
    Dmarc.isDomainPolicy r z.domain = Dmarc.isDomainPolicy s w.domain := by
  rw [Dmarc.isDomainPolicy, Dmarc.isDomainPolicy, h.type, h.name.normal_eq, hz.domain.normal_eq]

theorem Dmarc.isPolicy_respelled (hz : z.Respelled w) (h : r.Respelled s) :
    Dmarc.isPolicy r z.domain = Dmarc.isPolicy s w.domain := by
  rw [Dmarc.isPolicy, Dmarc.isPolicy, Dmarc.isDomainPolicy_respelled hz h, h.type, h.data]

theorem Caa.isWildcard_respelled (h : r.Respelled s) : Caa.isWildcard r = Caa.isWildcard s :=
  h.name.isWildcard_eq

theorem Caa.hasTag_respelled (tag : String) (h : r.Respelled s) :
    Caa.hasTag tag r = Caa.hasTag tag s := by
  rw [Caa.hasTag, Caa.hasTag, h.type, h.data]

theorem Kind.of?_respelled (hz : z.Respelled w) (h : r.Respelled s) :
    Kind.of? z.domain r = Kind.of? w.domain s := by
  rw [Kind.of?, Kind.of?, h.type, Dmarc.isPolicy_respelled hz h, Spf.isPolicy_respelled h]

theorem Ttl.key_respelled (h : r.Respelled s) : Ttl.key r = Ttl.key s := by
  rw [Ttl.key, Ttl.key, DomainName.shown, DomainName.shown, h.type, h.name.normal_eq]

end

namespace Zone.Respelled

variable {z w : Zone}

theorem whole (h : z.Respelled w) : List.Forall₂ Record.Respelled z.whole w.whole := by
  have hall := h.allRecords
  rw [Zone.whole, Zone.whole]
  generalize z.allRecords = all, w.allRecords = all' at hall
  cases hall with
  | none => exact h.records
  | some hall => exact hall

theorem fullOfType (h : z.Respelled w) (t : RecordType) :
    List.Forall₂ Record.Respelled (z.fullOfType t) (w.fullOfType t) := by
  have hfull : List.Forall₂ Record.Respelled z.fullRecords w.fullRecords := by
    have hall := h.allRecords
    rw [Zone.fullRecords, Zone.fullRecords]
    generalize z.allRecords = all, w.allRecords = all' at hall
    cases hall with
    | none => exact .nil
    | some hall => exact hall
  refine List.rel_filter ?_ hfull
  intro r s hr
  simp [hr.type]

theorem tracked (h : z.Respelled w) : Mx.tracked z = Mx.tracked w := by
  rw [Mx.tracked, Mx.tracked, Record.Respelled.countP_eq h.whole fun _ _ => Mx.isMx_respelled]

theorem conflicts (h : z.Respelled w) {a b : String} (hab : DomainName.Respelled a b) :
    Cname.conflicts a z = Cname.conflicts b w := by
  have hshared (t : RecordType) : ((z.fullOfType t).any fun r => DomainName.same r.name a) =
      (w.fullOfType t).any fun r => DomainName.same r.name b := by
    refine Record.Respelled.any_eq (h.fullOfType t) fun r s hr => ?_
    rw [DomainName.same, DomainName.same, hr.name.normal_eq, hab.normal_eq]
  simp only [Cname.conflicts, hshared]

theorem nameServers (h : z.Respelled w) : Soa.nameServers z = Soa.nameServers w := by
  refine Record.Respelled.map_eq (h.fullOfType .ns) fun r s hr => ?_
  rw [hr.data]

/-- What is found on the zone as a whole shows names in normal form, if at all. -/
theorem onZone (h : z.Respelled w) (a : Audit) : a.onZone z = a.onZone w := by
  have hsoa : z.records.countP (·.type = .soa) = w.records.countP (·.type = .soa) :=
    Record.Respelled.countP_eq h.records fun r s hr => by rw [hr.type]
  have hpolicies : z.records.countP (Dmarc.isDomainPolicy · z.domain) =
      w.records.countP (Dmarc.isDomainPolicy · w.domain) :=
    Record.Respelled.countP_eq h.records fun r s => Dmarc.isDomainPolicy_respelled h
  have hmail : z.records.any Dmarc.isMailRecord = w.records.any Dmarc.isMailRecord :=
    Record.Respelled.any_eq h.records fun r s => Dmarc.isMailRecord_respelled
  have hpolicy : z.whole.any (Dmarc.isDomainPolicy · z.domain) =
      w.whole.any (Dmarc.isDomainPolicy · w.domain) :=
    Record.Respelled.any_eq h.whole fun r s => Dmarc.isDomainPolicy_respelled h
  have hwildcard : z.whole.any Caa.isWildcard = w.whole.any Caa.isWildcard :=
    Record.Respelled.any_eq h.whole fun r s => Caa.isWildcard_respelled
  have htag (tag : String) : z.whole.any (Caa.hasTag tag) = w.whole.any (Caa.hasTag tag) :=
    Record.Respelled.any_eq h.whole fun r s => Caa.hasTag_respelled tag
  have hkeyed : (z.records.map fun r => (Ttl.key r, r.ttl)) =
      w.records.map fun r => (Ttl.key r, r.ttl) :=
    Record.Respelled.map_eq h.records fun r s hr => by rw [Ttl.key_respelled hr, hr.ttl]
  simp only [Audit.onZone, Dmarc.missing, Caa.coverage, Ttl.inconsistencies, hsoa, hpolicies, hmail,
    hpolicy, hwildcard, htag, hkeyed]

end Zone.Respelled

/-! The findings that show a name as it is written. -/

/-- The message of the warning on a name that starts with no service and transport. -/
def Srv.serviceMessage : String := "Invalid service/protocol combination"

namespace Diagnostic

/-- The finding as it reads on a record called `name`. -/
def calling (name : String) (d : Diagnostic) : Diagnostic :=
  if d.message = Srv.serviceMessage then d.note "name" (.str name) else d

/-- A finding that does not show the owner of its record as it is written. -/
def Nameless (d : Diagnostic) : Prop := d.message ≠ Srv.serviceMessage

@[simp] theorem nameless_error (s : String) : (error s).Nameless ↔ s ≠ Srv.serviceMessage := Iff.rfl
@[simp] theorem nameless_warning (s : String) : (warning s).Nameless ↔ s ≠ Srv.serviceMessage :=
  Iff.rfl
@[simp] theorem nameless_info (s : String) : (info s).Nameless ↔ s ≠ Srv.serviceMessage := Iff.rfl
@[simp] theorem nameless_note (d : Diagnostic) (name : String) (value : Json) :
    (d.note name value).Nameless ↔ d.Nameless := Iff.rfl

theorem Nameless.calling_eq {d : Diagnostic} (h : d.Nameless) (name : String) :
    d.calling name = d :=
  if_neg h

@[simp] theorem calling_atRecord (name : String) (d : Diagnostic) (i : Nat) :
    (d.atRecord i).calling name = (d.calling name).atRecord i := by
  by_cases h : d.message = Srv.serviceMessage <;> simp [calling, atRecord, note, h]

@[simp] theorem severity_calling (name : String) (d : Diagnostic) :
    (d.calling name).severity = d.severity := by
  simp only [calling, note]
  split <;> rfl

/-- The finding as it reads in a zone: where it shows the owner of its record, it shows it as the
zone writes it. -/
def asWritten (z : Zone) (d : Diagnostic) : Diagnostic :=
  (d.recordIndex.bind (z.records[·]?)).elim d fun r => d.calling r.name

theorem severity_asWritten (z : Zone) (d : Diagnostic) :
    (d.asWritten z).severity = d.severity := by
  rw [asWritten]
  cases d.recordIndex.bind (z.records[·]?) with
  | none => rfl
  | some r => exact severity_calling r.name d

theorem asWritten_withSeverity (d : Diagnostic) (z : Zone) (s : Severity) :
    asWritten z { d with severity := s } = { d.asWritten z with severity := s } := by
  simp only [asWritten]
  cases d.recordIndex.bind (z.records[·]?) with
  | none => rfl
  | some r => by_cases h : d.message = Srv.serviceMessage <;> simp [calling, note, h]

end Diagnostic

theorem Cname.Fault.nameless (f : Cname.Fault) : f.diagnostic.Nameless := by
  cases f <;> simp [diagnostic, Srv.serviceMessage]

theorem Mx.Fault.nameless (f : Mx.Fault) : f.diagnostic.Nameless := by
  cases f <;> simp [diagnostic, Srv.serviceMessage]

theorem Soa.Fault.nameless (f : Soa.Fault) : f.diagnostic.Nameless := by
  cases f <;> simp [diagnostic, Srv.serviceMessage]

theorem Spf.Fault.nameless (f : Spf.Fault) : f.diagnostic.Nameless := by
  cases f with
  | address family => cases family <;> exact ne_of_append (by decide)
  | lookups =>
    simp only [diagnostic, Diagnostic.nameless_note, Diagnostic.nameless_error, String.append_assoc]
    exact ne_of_append (by decide)
  | _ => simp [diagnostic, Srv.serviceMessage]

theorem Dmarc.Fault.nameless (f : Dmarc.Fault) : f.diagnostic.Nameless := by
  cases f with
  | aggregateUri => exact ne_of_append (by decide)
  | forensicUri => exact ne_of_append (by decide)
  | partialFiltering =>
    simp only [diagnostic, Diagnostic.nameless_note, Diagnostic.nameless_warning,
      String.append_assoc]
    exact ne_of_append (by decide)
  | _ => simp [diagnostic, Srv.serviceMessage]

theorem Caa.Fault.nameless (f : Caa.Fault) : f.diagnostic.Nameless := by
  cases f <;> simp [diagnostic, Srv.serviceMessage]

theorem Ttl.Fault.nameless (f : Ttl.Fault) : f.diagnostic.Nameless := by
  cases f <;> simp [diagnostic, Srv.serviceMessage]

/-- The fault of a record called `name`. -/
def Srv.Fault.calling (name : String) : Srv.Fault → Srv.Fault
  | .service _ => .service name
  | f => f

theorem Srv.Fault.diagnostic_calling (name : String) (f : Srv.Fault) :
    (f.calling name).diagnostic = f.diagnostic.calling name := by
  cases f with
  | service => rfl
  | _ =>
    refine (Diagnostic.Nameless.calling_eq ?_ name).symm
    simp [calling, diagnostic, Srv.serviceMessage]

/-- Answers that describe faults without names read the same on every record. -/
theorem Describes.map_calling {Fault : Type} {describe : Fault → Diagnostic}
    {answer : Option Diagnostic} (h : Describes describe answer) (hf : ∀ f, (describe f).Nameless)
    (name : String) : answer.map (·.calling name) = answer := by
  cases answer with
  | none => rfl
  | some d =>
    obtain ⟨f, rfl⟩ := h d rfl
    rw [Option.map_some, (hf f).calling_eq]

section

variable {z w : Zone} {r s : Record}

theorem Rule.Reports.respelled {Fault : Type} {describe : Fault → Diagnostic} {rule : Rule}
    (h : rule.Reports describe) (hf : ∀ f, (describe f).Nameless) (hrule : rule s w = rule r z) :
    rule s w = (rule r z).map (·.calling s.name) := by
  rw [hrule, (h r z).map_calling hf]

theorem Cname.rule_respelled (hz : z.Respelled w) (hr : r.Respelled s) :
    ∀ rule ∈ Cname.rules, rule s w = rule r z := by
  intro rule hrule
  simp only [Cname.rules, List.mem_cons, List.not_mem_nil, or_false] at hrule
  obtain rfl | rfl | rfl := hrule
  · rw [Cname.format, Cname.format, DomainName.shown, DomainName.shown, hr.data, hr.name.normal_eq]
  · rw [Cname.apex, Cname.apex, DomainName.same, DomainName.same, hr.name.normal_eq,
      hz.domain.normal_eq]
  · rw [Cname.coexistence, Cname.coexistence, hz.conflicts hr.name]

theorem Mx.rule_respelled (hr : r.Respelled s) : ∀ rule ∈ Mx.rules, rule s w = rule r z := by
  intro rule hrule
  simp only [Mx.rules, List.mem_cons, List.not_mem_nil, or_false] at hrule
  obtain rfl | rfl := hrule
  · rw [Mx.nullExchange, Mx.nullExchange, hr.data]
  · simp only [Mx.target, hr.data, hr.name.normal_eq]

theorem Soa.rule_respelled (hz : z.Respelled w) (hr : r.Respelled s) :
    ∀ rule ∈ Soa.rules, rule s w = rule r z := by
  intro rule hrule
  simp only [Soa.rules, List.mem_cons, List.not_mem_nil, or_false] at hrule
  obtain rfl | rfl | rfl | rfl := hrule
  · rw [Soa.rname, Soa.onBody, Soa.onBody, hr.data]
  · rw [Soa.serial, Soa.onBody, Soa.onBody, hr.data]
  · simp only [Soa.primary, Soa.onBody, hr.data, hz.nameServers]
  · rw [Soa.minimum, Soa.onBody, Soa.onBody, hr.data]

theorem Spf.rule_respelled (hz : z.Respelled w) (hr : r.Respelled s) :
    ∀ rule ∈ Spf.rules, rule s w = rule r z := by
  intro rule hrule
  have hcount : z.whole.countP Spf.isPolicy = w.whole.countP Spf.isPolicy :=
    Record.Respelled.countP_eq hz.whole fun r s => Spf.isPolicy_respelled
  simp only [Spf.rules, List.mem_cons, List.not_mem_nil, or_false] at hrule
  obtain rfl | rfl | hrule := hrule
  · rw [Spf.form, Spf.form, hr.data]
  · rw [Spf.multiple, Spf.multiple, hcount]
  · obtain rfl | rfl | rfl | rfl := hrule <;>
      simp only [Spf.addresses, Spf.senders, Spf.pointers, Spf.lookupLimit, Spf.onPolicy, hr.data]

theorem Dmarc.rule_respelled (hr : r.Respelled s) : ∀ rule ∈ Dmarc.rules, rule s w = rule r z := by
  intro rule hrule
  simp only [Dmarc.rules, List.mem_cons, List.not_mem_nil, or_false] at hrule
  obtain rfl | rfl | hrule := hrule
  · rw [Dmarc.body, Dmarc.body, hr.data]
  · rw [Dmarc.form, Dmarc.form, hr.data]
  · obtain rfl | rfl | rfl := hrule <;>
      simp only [Dmarc.alignment, Dmarc.reporting, Dmarc.settings, Dmarc.onPolicy, hr.data]

theorem Caa.rule_respelled (hr : r.Respelled s) : ∀ rule ∈ Caa.rules, rule s w = rule r z := by
  intro rule hrule
  simp only [Caa.rules, List.mem_cons, List.not_mem_nil, or_false] at hrule
  obtain rfl | hrule := hrule
  · rw [Caa.tag, Caa.tag, hr.data]
  · obtain rfl | rfl := hrule <;> simp only [Caa.issuer, Caa.iodef, Caa.onBody, hr.data]

theorem Srv.onBody_respelled {check : Srv.Body → Record → Option Srv.Fault} (hr : r.Respelled s)
    (hcheck : ∀ body, check body s = (check body r).map (·.calling s.name)) :
    Srv.onBody check s w = (Srv.onBody check r z).map (·.calling s.name) := by
  rw [Srv.onBody, Srv.onBody, hr.data]
  cases Srv.parse? s.data with
  | none => exact congrArg some (Srv.Fault.diagnostic_calling s.name .malformed)
  | some body => simp [hcheck, Function.comp_def, Srv.Fault.diagnostic_calling]

theorem Srv.rule_respelled (hr : r.Respelled s) :
    ∀ rule ∈ Srv.rules, rule s w = (rule r z).map (·.calling s.name) := by
  intro rule hrule
  simp only [Srv.rules, List.mem_cons, List.not_mem_nil, or_false] at hrule
  obtain rfl | rfl | rfl | rfl | rfl := hrule
  all_goals
    refine Srv.onBody_respelled hr fun body => ?_
  · rfl
  · split <;> rfl
  · split <;> rfl
  · split <;> rfl
  · rw [hr.name.isServiceName_eq]
    split <;> rfl

/-- On a respelled record in a respelled zone a rule finds the same, but for the name it shows. -/
theorem Kind.rule_respelled (k : Kind) (hz : z.Respelled w) (hr : r.Respelled s) :
    ∀ rule ∈ k.rules, rule s w = (rule r z).map (·.calling s.name) := by
  intro rule hrule
  cases k with
  | cname =>
    exact (Cname.rules_report rule hrule).respelled Cname.Fault.nameless
      (Cname.rule_respelled hz hr rule hrule)
  | mx =>
    exact (Mx.rules_report rule hrule).respelled Mx.Fault.nameless (Mx.rule_respelled hr rule hrule)
  | soa =>
    exact (Soa.rules_report rule hrule).respelled Soa.Fault.nameless
      (Soa.rule_respelled hz hr rule hrule)
  | spf =>
    exact (Spf.rules_report rule hrule).respelled Spf.Fault.nameless
      (Spf.rule_respelled hz hr rule hrule)
  | dmarc =>
    exact (Dmarc.rules_report rule hrule).respelled Dmarc.Fault.nameless
      (Dmarc.rule_respelled hr rule hrule)
  | srv => exact Srv.rule_respelled hr rule hrule
  | caa =>
    exact (Caa.rules_report rule hrule).respelled Caa.Fault.nameless
      (Caa.rule_respelled hr rule hrule)

theorem Kind.run_respelled (k : Kind) (hz : z.Respelled w) (hr : r.Respelled s) :
    Rule.run k.rules s w = (Rule.run k.rules r z).map (·.calling s.name) := by
  rw [Rule.run, Rule.run, List.map_filterMap]
  exact List.filterMap_congr (k.rule_respelled hz hr)

theorem Mx.Tracker.check_respelled (t : Mx.Tracker) (hz : z.Respelled w) (hr : r.Respelled s) :
    t.check s w = t.check r z := by
  rw [check, check, hz.tracked, hr.data]

end

namespace Audit

variable {z w : Zone} {r s : Record}

theorem trackerAfter_respelled (t : Mx.Tracker) (hz : z.Respelled w) (hr : r.Respelled s) :
    trackerAfter w t s = trackerAfter z t r := by
  rw [trackerAfter, trackerAfter, hr.type, t.check_respelled hz hr]

theorem builtin_respelled (t : Mx.Tracker) (hz : z.Respelled w) (hr : r.Respelled s) :
    builtin w t s = (builtin z t r).map (·.calling s.name) := by
  have htracker : (if Mx.isMx s then (t.check s w).1.toList else []) =
      (if Mx.isMx r then (t.check r z).1.toList else []).map (·.calling s.name) := by
    rw [← Mx.isMx_respelled hr, t.check_respelled hz hr]
    split
    · rw [← Option.toList_map, (t.check_reports r z).map_calling Mx.Fault.nameless]
    · rfl
  have hrules : ((Kind.of? w.domain s).elim [] fun k => Rule.run k.rules s w) =
      ((Kind.of? z.domain r).elim [] fun k => Rule.run k.rules r z).map (·.calling s.name) := by
    rw [← Kind.of?_respelled hz hr]
    cases Kind.of? z.domain r with
    | none => rfl
    | some k => exact k.run_respelled hz hr
  rw [builtin_eq, builtin_eq, List.map_append, htracker, hrules]

theorem advisories_respelled (a : Audit) (hr : r.Respelled s) :
    a.advisories w s = (a.advisories z r).map (·.calling s.name) := by
  have hserial : Soa.serialFormat s w = (Soa.serialFormat r z).map (·.calling s.name) := by
    refine Soa.serialFormat_reports.respelled Soa.Fault.nameless ?_
    rw [Soa.serialFormat, Soa.serialFormat, hr.data]
  have hrange : Ttl.range s w = (Ttl.range r z).map (·.calling s.name) := by
    have hdetails (f : Ttl.Fault) (details : Json × Json) :
        ((f.diagnostic.note "ttl" details.1).note "formatted" details.2).calling s.name =
          (f.diagnostic.note "ttl" details.1).note "formatted" details.2 :=
      Diagnostic.Nameless.calling_eq (by simpa using f.nameless) s.name
    rw [Ttl.range, Ttl.range, hr.type, hr.ttl]
    cases Ttl.fault? s.type s.ttl.toNat with
    | none => rfl
    | some f => exact congrArg some (hdetails f (_, _)).symm
  unfold advisories
  split
  · rw [hr.type, hserial, Ttl.rules, Rule.run_cons, Rule.run_cons, hrange]
    split <;> simp [Option.toList_map]
  · rfl

/-- A walk over respelled records finds the same, but for the names it shows. -/
theorem walk_respelled (o : Options) (hz : z.Respelled w) {rs ss : List Record}
    (h : List.Forall₂ Record.Respelled rs ss) {i : Nat}
    (hat : ∀ j, j < ss.length → w.records[i + j]? = ss[j]?) (t : Mx.Tracker) :
    (Audit.mk o []).walk w i t ss = ((Audit.mk o []).walk z i t rs).map (·.asWritten w) := by
  induction h generalizing i t with
  | nil => rfl
  | @cons r s rs ss hr hrest ih =>
    have hhere : w.records[i]? = some s := by simpa using hat 0 (by simp)
    have hthere (j : Nat) (hj : j < ss.length) : w.records[i + 1 + j]? = ss[j]? := by
      simpa [Nat.add_assoc, Nat.add_comm 1] using hat (j + 1) (by simpa using hj)
    have hon : (Audit.mk o []).onRecord w t s =
        ((Audit.mk o []).onRecord z t r).map (·.calling s.name) := by
      simp [onRecord, custom, builtin_respelled t hz hr,
        advisories_respelled (z := z) (w := w) _ hr]
    have hwritten (d : Diagnostic) :
        (d.atRecord i).asWritten w = (d.calling s.name).atRecord i := by
      simp [Diagnostic.asWritten, hhere]
    rw [walk, walk, hon, trackerAfter_respelled t hz hr, ih hthere, List.map_append, List.map_map,
      List.map_map]
    simp [Function.comp_def, hwritten]

/-- Raising a finding does not touch the name it shows. -/
theorem raise_asWritten (a : Audit) (z : Zone) (d : Diagnostic) :
    a.raise (d.asWritten z) = (a.raise d).asWritten z := by
  rw [raise_eq, raise_eq, Diagnostic.severity_asWritten]
  exact (d.asWritten_withSeverity z _).symm

/-- In whatever way the names of a zone are spelled, an audit without added rules gives the same
report, but for the names that warnings on services show. -/
theorem report_respelled (o : Options) (h : z.Respelled w) :
    (Audit.mk o []).report w = ((Audit.mk o []).report z).map (·.asWritten w) := by
  have hzone : ((Audit.mk o []).onZone z).map (·.asWritten w) = (Audit.mk o []).onZone w := by
    rw [← h.onZone, List.map_congr_left (g := id), List.map_id]
    intro d hd
    simp [Diagnostic.asWritten, (onZone_fresh _ z d hd).recordIndex]
  have hfindings : (Audit.mk o []).findings w =
      ((Audit.mk o []).findings z).map (·.asWritten w) := by
    rw [findings, findings, List.map_append, hzone,
      walk_respelled o h h.records (fun j _ => by rw [Nat.zero_add])]
  have hraised : ((Audit.mk o []).findings w).map (Audit.mk o []).raise =
      (((Audit.mk o []).findings z).map (Audit.mk o []).raise).map (·.asWritten w) := by
    simp only [hfindings, List.map_map, Function.comp_def, raise_asWritten]
  rw [report_eq_ofList, report_eq_ofList, hraised,
    Report.ofList_map (Diagnostic.severity_asWritten w)]

/-- A service without a transport, an alias of itself beside an address, and a policy, with capitals
and root dots in one of two spellings. -/
theorem report_respelled_service :
    let service : Record := ⟨.srv, "_sip.example.com", 3600, "10 60 5060 sip.example.com"⟩
    let service' : Record := ⟨.srv, "_SIP.Example.com.", 3600, "10 60 5060 sip.example.com"⟩
    let cname : Record := ⟨.cname, "www.example.com", 3600, "www.example.com"⟩
    let cname' : Record := ⟨.cname, "WWW.example.com", 3600, "www.example.com"⟩
    let address : Record := ⟨.a, "www.example.com.", 3600, "192.0.2.1"⟩
    let policy : Record := ⟨.txt, "_dmarc.example.com", 3600, "v=DMARC1; p=reject"⟩
    let policy' : Record := ⟨.txt, "_DMARC.example.COM.", 3600, "v=DMARC1; p=reject"⟩
    let z : Zone := ⟨"example.com", [service, cname, policy], some [cname, address]⟩
    let w : Zone := ⟨"EXAMPLE.com.", [service', cname', policy'], some [cname', address]⟩
    z.Respelled w ∧
    Audit.report ⟨⟨true, true⟩, []⟩ w =
      (Audit.report ⟨⟨true, true⟩, []⟩ z).map (·.asWritten w) ∧
    (Audit.report ⟨⟨true, true⟩, []⟩ w).errors.map (·.metadata) =
      [some [("name", .str "_SIP.Example.com.")], some [("target", .str "www.example.com")],
        some [("conflictingTypes", .ofTexts ["A"])]] := by
  intro service service' cname cname' address policy policy' z w
  have h : z.Respelled w := ⟨by decide, by decide, .some (by decide)⟩
  exact ⟨h, report_respelled ⟨true, true⟩ h, by decide +kernel⟩

end Audit
end ZoneAudit
