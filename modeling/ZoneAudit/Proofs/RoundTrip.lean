import ZoneAudit.Codec.Policy
import ZoneAudit.Codec.Report
import ZoneAudit.Codec.Uri
import ZoneAudit.Codec.Zone
import ZoneAudit.Doh
import ZoneAudit.Proofs.ReadBack

/-!
Round trips through text. Every record, zone, finding, report, answer, URI and policy is read back
from the text that it is written as. What a value does not have is left out of the text or written
as null, and is missing again when the text is read.
-/

namespace ZoneAudit
open Json

/-- A value is read back from the text that it is written as. -/
def Json.RoundTrips {α : Type} (toJson : α → Json) (read : Document → Option α) (x : α) : Prop :=
  (Document.parse? (toJson x).render).bind read = some x

theorem Json.roundTrips_iff {α : Type} {toJson : α → Json} {read : Document → Option α} {x : α} :
    RoundTrips toJson read x ↔ read (toJson x).document = some x := by
  rw [RoundTrips, Document.parse?_render, Option.bind_some]

/-- The names of the members of an object. -/
def Json.memberNames : Json → List String
  | .obj members => members.map (·.1)
  | _ => []

theorem RecordType.ofDocument?_toJson (t : RecordType) :
    RecordType.ofDocument? t.toJson.document = some t := by
  cases t <;> decide +kernel

theorem Record.ofDocument?_toJson (r : Record) : Record.ofDocument? r.toJson.document = some r := by
  rw [Record.ofDocument?, Record.toJson, Document.fields?_document _ (by simp)]
  simp [Slot.required, RecordType.ofDocument?_toJson]

theorem Zone.ofDocument?_toJson (z : Zone) : Zone.ofDocument? z.toJson.document = some z := by
  have hrecords (rs : List Record) : Document.list? Record.ofDocument?
      (Json.arr (rs.map Record.toJson)).document = some rs :=
    Document.list?_document fun r _ => r.ofDocument?_toJson
  obtain ⟨domain, records, allRecords⟩ := z
  cases allRecords with
  | none =>
    rw [Zone.ofDocument?, Zone.toJson, Document.fields?_document _ (by simp)]
    simp [Slot.required, Slot.withDefault, hrecords]
  | some all =>
    have hall := Document.orNull_document (by simp) (hrecords all)
    rw [Zone.ofDocument?, Zone.toJson, Document.fields?_document _ (by simp)]
    simp [Slot.required, Slot.withDefault, hrecords, hall]

theorem Severity.ofDocument?_toJson (s : Severity) :
    Severity.ofDocument? s.toJson.document = some s := by
  cases s <;> decide +kernel

/-- A finding that is read back as it was written: its details differ in name, are exact and nest no
deeper than a bound, and its position fits. -/
structure Diagnostic.Exact (depth : Nat) (d : Diagnostic) : Prop where
  names : ∀ members ∈ d.metadata, (members.map (·.1)).Nodup
  values : ∀ members ∈ d.metadata, ∀ m ∈ members, m.2.Exact depth
  index : ∀ i ∈ d.recordIndex, i < UInt64.size

namespace Diagnostic

theorem Exact.mono {depth depth' : Nat} {d : Diagnostic} (h : d.Exact depth)
    (hdepth : depth ≤ depth') : d.Exact depth' :=
  ⟨h.names, fun members hm m hmem => (h.values members hm m hmem).mono hdepth, h.index⟩

theorem members?_document {room : Nat} {members : List (String × Json)}
    (hnames : (members.map (·.1)).Nodup) (hvalues : ∀ m ∈ members, m.2.Exact room) :
    members? room (Json.obj members).document = some members := by
  have hread : ∀ m ∈ members, Document.json? room m.2.document = some m.2 :=
    fun m hm => Document.json?_document (hvalues m hm)
  rw [document, members?, Document.settings?_documents hread, Option.map_some,
    ofSettings_of_nodup hnames]

theorem ofDocument?_toJson {room : Nat} {d : Diagnostic} (h : d.Exact (room - 2)) :
    ofDocument? room d.toJson.document = some d := by
  have hmembers (members : List (String × Json)) (hm : members ∈ d.metadata) :
      Document.orNull (members? (room - 2)) (Json.obj members).document = some (some members) :=
    Document.orNull_document (by simp)
      (members?_document (h.names members hm) (h.values members hm))
  have hindex (i : Nat) (hi : i ∈ d.recordIndex) :
      Document.orNull (Document.natural? (UInt64.size - 1)) (Json.int i).document =
        some (some i) := by
    have hlt := h.index i hi
    exact Document.orNull_document (by simp) (Document.natural?_document (by omega))
  obtain ⟨code, message, severity, metadata, recordIndex⟩ := d
  rw [ofDocument?, toJson, Document.fields?_document]
  · cases metadata <;> cases recordIndex <;>
      simp_all [Slot.required, Slot.withDefault, Severity.ofDocument?_toJson]
  · cases metadata <;> cases recordIndex <;> simp

end Diagnostic

theorem Report.ofDocument?_toJson {room : Nat} {r : Report}
    (h : ∀ d ∈ r.diagnostics, d.Exact (room - 4)) :
    Report.ofDocument? room r.toJson.document = some r := by
  have hfindings (ds : List Diagnostic) (hds : ∀ d ∈ ds, d ∈ r.diagnostics) :
      Document.list? (Diagnostic.ofDocument? (room - 2))
        (Json.arr (ds.map Diagnostic.toJson)).document = some ds :=
    Document.list?_document fun d hd => Diagnostic.ofDocument?_toJson (h d (hds d hd))
  have hwarnings := hfindings r.warnings (by simp_all [Report.diagnostics])
  have herrors := hfindings r.errors (by simp_all [Report.diagnostics])
  rw [Report.ofDocument?, Report.toJson, Document.fields?_document _ (by simp)]
  simp [Slot.required, hwarnings, herrors]

theorem Doh.Answer.ofDocument?_toJson (a : Doh.Answer) :
    Doh.Answer.ofDocument? a.toJson.document = some a := by
  rw [Doh.Answer.ofDocument?, Doh.Answer.toJson, Document.fields?_document _ (by simp)]
  simp [Slot.required]

theorem Doh.Response.ofDocument?_toJson (r : Doh.Response) :
    Doh.Response.ofDocument? r.toJson.document = some r := by
  have hanswers : Document.list? Doh.Answer.ofDocument?
      (Json.arr (r.answers.map Doh.Answer.toJson)).document = some r.answers :=
    Document.list?_document fun a _ => a.ofDocument?_toJson
  rw [Doh.Response.ofDocument?, Doh.Response.toJson, Document.fields?_document _ (by simp)]
  simp [Slot.required, Slot.withDefault, hanswers]

theorem Uri.ofDocument?_toJson (u : Uri) : Uri.ofDocument? u.toJson.document = some u := by
  rw [Uri.ofDocument?, Uri.toJson, Document.fields?_document _ (by simp)]
  simp [Slot.required]

namespace Spf

theorem names_lookup_name (q : Qualifier) : Qualifier.names.lookup q.name = some q := by
  cases q <;> decide +kernel

theorem names_lookup_method (m : Method) : Method.names.lookup m.name = some m := by
  cases m <;> decide +kernel

theorem Mechanism.ofDocument?_toJson (m : Mechanism) :
    Mechanism.ofDocument? m.toJson.document = some m := by
  obtain ⟨qualifier, method, value⟩ := m
  rw [ofDocument?, toJson, Document.fields?_document]
  · cases value with
    | none =>
      simp [Slot.required, Slot.optional, Qualifier.toJson, names_lookup_name, names_lookup_method]
    | some s =>
      have hvalue := Document.optional_text (some s)
      rw [Json.ofText?] at hvalue
      simp [Slot.required, Qualifier.toJson, names_lookup_name, names_lookup_method, hvalue]
  · cases value <;> simp

theorem Policy.ofDocument?_toJson (p : Policy) : Policy.ofDocument? p.toJson.document = some p := by
  have hmechanisms : Document.list? Mechanism.ofDocument?
      (Json.arr (p.mechanisms.map Mechanism.toJson)).document = some p.mechanisms :=
    Document.list?_document fun m _ => m.ofDocument?_toJson
  rw [ofDocument?, toJson, Document.fields?_document _ (by simp)]
  simp [Slot.required, hmechanisms]

end Spf

namespace Dmarc.Policy

theorem optional_number (n? : Option Int64) :
    (Slot.given (numberJson n?).document).optional Document.int64? = some n? := by
  cases n? with
  | none => rfl
  | some n => exact Document.optional_document (by simp [numberJson]) (Document.int64?_document n)

theorem optional_list (ts? : Option (List String)) :
    (Slot.given (listJson ts?).document).optional (Document.list? Document.text?) = some ts? := by
  cases ts? with
  | none => rfl
  | some ts =>
    exact Document.optional_document (by simp [listJson, Json.ofTexts])
      (Document.texts?_document ts)

theorem ofDocument?_toJson (p : Policy) : ofDocument? p.toJson.document = some p := by
  rw [ofDocument?, toJson, Document.fields?_document _ (by simp)]
  simp [Slot.required, optional_number, optional_list]

end Dmarc.Policy

/-! What a value does not have is left out. -/

theorem Zone.allRecords_mem_iff (z : Zone) :
    "allRecords" ∈ z.toJson.memberNames ↔ z.allRecords.isSome := by
  obtain ⟨domain, records, allRecords⟩ := z
  cases allRecords <;> simp [Zone.toJson, Json.memberNames]

theorem Diagnostic.metadata_mem_iff (d : Diagnostic) :
    "metadata" ∈ d.toJson.memberNames ↔ d.metadata.isSome := by
  obtain ⟨code, message, severity, metadata, recordIndex⟩ := d
  cases metadata <;> cases recordIndex <;> simp [Diagnostic.toJson, Json.memberNames]

theorem Diagnostic.recordIndex_mem_iff (d : Diagnostic) :
    "recordIndex" ∈ d.toJson.memberNames ↔ d.recordIndex.isSome := by
  obtain ⟨code, message, severity, metadata, recordIndex⟩ := d
  cases metadata <;> cases recordIndex <;> simp [Diagnostic.toJson, Json.memberNames]

theorem Spf.Mechanism.value_mem_iff (m : Spf.Mechanism) :
    "value" ∈ m.toJson.memberNames ↔ m.value.isSome := by
  obtain ⟨qualifier, method, value⟩ := m
  cases value <;> simp [Spf.Mechanism.toJson, Json.memberNames]

/-- A zone that is not known and one that is known to be empty are written differently. -/
theorem Zone.render_bare_ne_empty (domain : String) (rs : List Record) :
    (Zone.toJson ⟨domain, rs, none⟩).render ≠ (Zone.toJson ⟨domain, rs, some []⟩).render := by
  intro h
  have hbare := Json.roundTrips_iff.2 (Zone.ofDocument?_toJson ⟨domain, rs, none⟩)
  have hempty := Json.roundTrips_iff.2 (Zone.ofDocument?_toJson ⟨domain, rs, some []⟩)
  rw [Json.RoundTrips, h, hempty] at hbare
  simp at hbare

/-- Whatever is written is read back, findings and reports if their details are exact and nest at
most 100 deep; members with nothing to write are left out. -/
theorem roundTrips_all :
    (∀ r, RoundTrips Record.toJson Record.ofDocument? r) ∧
    (∀ z, RoundTrips Zone.toJson Zone.ofDocument? z) ∧
    (∀ d : Diagnostic, d.Exact 100 →
      RoundTrips Diagnostic.toJson (Diagnostic.ofDocument? Document.depthLimit) d) ∧
    (∀ r : Report, (∀ d ∈ r.diagnostics, d.Exact 100) →
      RoundTrips Report.toJson (Report.ofDocument? Document.depthLimit) r) ∧
    (∀ a, RoundTrips Doh.Answer.toJson Doh.Answer.ofDocument? a) ∧
    (∀ r, RoundTrips Doh.Response.toJson Doh.Response.ofDocument? r) ∧
    (∀ u, RoundTrips Uri.toJson Uri.ofDocument? u) ∧
    (∀ p, RoundTrips Spf.Policy.toJson Spf.Policy.ofDocument? p) ∧
    (∀ p, RoundTrips Dmarc.Policy.toJson Dmarc.Policy.ofDocument? p) ∧
    (∀ domain rs, (Zone.toJson ⟨domain, rs, none⟩).render ≠
      (Zone.toJson ⟨domain, rs, some []⟩).render) ∧
    (∀ z : Zone, "allRecords" ∈ z.toJson.memberNames ↔ z.allRecords.isSome) ∧
    (∀ d : Diagnostic, "metadata" ∈ d.toJson.memberNames ↔ d.metadata.isSome) ∧
    (∀ d : Diagnostic, "recordIndex" ∈ d.toJson.memberNames ↔ d.recordIndex.isSome) ∧
    (∀ m : Spf.Mechanism, "value" ∈ m.toJson.memberNames ↔ m.value.isSome) := by
  refine ⟨?_, ?_, ?_, ?_, ?_, ?_, ?_, ?_, ?_, Zone.render_bare_ne_empty, Zone.allRecords_mem_iff,
    Diagnostic.metadata_mem_iff, Diagnostic.recordIndex_mem_iff, Spf.Mechanism.value_mem_iff⟩
  · exact fun r => roundTrips_iff.2 r.ofDocument?_toJson
  · exact fun z => roundTrips_iff.2 z.ofDocument?_toJson
  · exact fun d h => roundTrips_iff.2 (Diagnostic.ofDocument?_toJson (h.mono (by decide)))
  · exact fun r h => roundTrips_iff.2
      (Report.ofDocument?_toJson fun d hd => (h d hd).mono (by decide))
  · exact fun a => roundTrips_iff.2 a.ofDocument?_toJson
  · exact fun r => roundTrips_iff.2 r.ofDocument?_toJson
  · exact fun u => roundTrips_iff.2 u.ofDocument?_toJson
  · exact fun p => roundTrips_iff.2 p.ofDocument?_toJson
  · exact fun p => roundTrips_iff.2 p.ofDocument?_toJson

/-- Nested details, the least and the greatest integer of 64 bits and escaped characters are read
back, in a note and in a report. -/
theorem roundTrips_nested_details :
    let inner : Json := .obj [("", .int 18446744073709551615), ("list", .arr [.null, .arr []])]
    let d : Diagnostic := {
      code := "tab\t", message := "\x01 \"😀\" \\ ς", severity := .info
      metadata := some [("z", inner), ("a", .int (-9223372036854775808)), ("b", .bool true)]
      recordIndex := some 18446744073709551615 }
    let r : Report := { warnings := [d, .warning "plain"] }
    d.Exact 100 ∧ (∀ e ∈ r.diagnostics, e.Exact 100) ∧
      RoundTrips Diagnostic.toJson (Diagnostic.ofDocument? Document.depthLimit) d ∧
      RoundTrips Report.toJson (Report.ofDocument? Document.depthLimit) r := by
  intro inner d r
  have hinner : inner.Exact 100 := by
    refine .obj (by decide) ?_
    simp only [List.forall_mem_cons, List.not_mem_nil, false_imp_iff, implies_true, and_true]
    refine ⟨.int (by decide) (by decide), .arr ?_⟩
    simp only [List.forall_mem_cons, List.not_mem_nil, false_imp_iff, implies_true, and_true]
    exact ⟨.null, .arr (by simp)⟩
  have hd : d.Exact 100 := by
    refine ⟨by simp [d], ?_, by simp [d]⟩
    simp only [d, Option.mem_some_iff, forall_eq', List.forall_mem_cons, List.not_mem_nil,
      false_imp_iff, implies_true, and_true]
    exact ⟨hinner, .int (by decide) (by decide), .bool true⟩
  have hr : ∀ e ∈ r.diagnostics, e.Exact 100 := by
    have hplain : (Diagnostic.warning "plain").Exact 100 :=
      ⟨by simp [Diagnostic.warning, Diagnostic.of], by simp [Diagnostic.warning, Diagnostic.of],
        by simp [Diagnostic.warning, Diagnostic.of]⟩
    simp only [r, Report.diagnostics, List.nil_append, List.forall_mem_cons, List.not_mem_nil,
      false_imp_iff, implies_true, and_true]
    exact ⟨hd, hplain⟩
  exact ⟨hd, hr, roundTrips_all.2.2.1 d hd, roundTrips_all.2.2.2.1 r hr⟩

end ZoneAudit
