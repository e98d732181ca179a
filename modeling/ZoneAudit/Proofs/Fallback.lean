import ZoneAudit.Proofs.Sight
import ZoneAudit.Proofs.Strict

/-!
Zones of which only the records under audit are known. The checks that count records over the zone
then count the records under audit, so that they find what they would find if these were the full
zone. The check of aliases for other records at their name does not: it stays silent.
-/

namespace ZoneAudit

namespace Report

/-- A list of findings with some more errors in between has a report with just these more errors. -/
theorem ofList_insert {ds es more : List Diagnostic} (hsub : ds.Sublist es)
    (hperm : es.Perm (ds ++ more)) (hmore : ∀ d ∈ more, d.isError) :
    (ofList ds).warnings = (ofList es).warnings ∧
    (ofList ds).errors.Sublist (ofList es).errors ∧
    (ofList es).errors.Perm ((ofList ds).errors ++ more) ∧
    (ofList ds = ofList es ↔ more = []) := by
  have hwarnings : (ofList ds).warnings = (ofList es).warnings := by
    have hnone : more.filter (!·.isError) = [] := by
      rw [List.filter_eq_nil_iff]
      intro d hd
      simp [hmore d hd]
    apply (hsub.filter (!·.isError)).eq_of_length
    have hlen := (hperm.filter (!·.isError)).length_eq
    rw [List.filter_append, hnone, List.append_nil] at hlen
    exact hlen.symm
  have herrors : (ofList es).errors.Perm ((ofList ds).errors ++ more) := by
    have hall : more.filter Diagnostic.isError = more := List.filter_eq_self.2 hmore
    have h := hperm.filter Diagnostic.isError
    rwa [List.filter_append, hall] at h
  refine ⟨hwarnings, hsub.filter _, herrors, ?_⟩
  constructor
  · intro h
    have hlen := herrors.length_eq
    rw [← h, List.length_append] at hlen
    exact List.length_eq_zero_iff.1 (by omega)
  · rintro rfl
    rw [List.append_nil] at hperm
    rw [hsub.eq_of_length hperm.length_eq.symm]

end Report

namespace Zone

/-- The zone of which only the records under audit are known. -/
abbrev bare (domain : String) (rs : List Record) : Zone := ⟨domain, rs, none⟩

/-- The zone whose records are all under audit, and known to be all. -/
abbrev complete (domain : String) (rs : List Record) : Zone := ⟨domain, rs, some rs⟩

end Zone

namespace Cname

/-- The error on an alias at a position that shares its name with other records of the full zone. -/
def clash? (z : Zone) (r : Record) (i : Nat) : Option Diagnostic :=
  if r.type = .cname then (coexistence r z).map (·.atRecord i) else none

/-- The errors on aliases of a run that share their name with other records of the full zone. -/
def clashes (z : Zone) (i : Nat) (rs : List Record) : List Diagnostic :=
  (rs.zipIdx i).filterMap fun (r, j) => clash? z r j

@[simp] theorem clashes_nil (z : Zone) (i : Nat) : clashes z i [] = [] := rfl

theorem clashes_cons (z : Zone) (i : Nat) (r : Record) (rs : List Record) :
    clashes z i (r :: rs) = (clash? z r i).toList ++ clashes z (i + 1) rs := by
  cases h : clash? z r i <;> simp [clashes, h]

theorem isError_of_mem_clashes {z : Zone} {i : Nat} {rs : List Record} {d : Diagnostic}
    (hd : d ∈ clashes z i rs) : d.isError := by
  obtain ⟨⟨r, j⟩, -, hc⟩ := List.mem_filterMap.1 hd
  simp only [clash?] at hc
  split at hc
  · obtain ⟨e, he, rfl⟩ := Option.map_eq_some_iff.1 hc
    simp only [coexistence] at he
    split at he
    · simp at he
    · obtain rfl := Option.some.inj he
      rfl
  · simp at hc

theorem mem_alphabetical (t : RecordType) : t ∈ alphabetical := by cases t <;> decide

/-- A name has no conflicts if all that the full zone holds there may stand beside an alias. -/
theorem conflicts_eq_nil {name : String} {z : Zone} :
    conflicts name z = [] ↔ ∀ s ∈ z.fullRecords, DomainName.same s.name name →
      s.type = .cname ∨ s.type ∈ coexisting := by
  simp only [conflicts, List.filter_eq_nil_iff, Zone.fullOfType]
  constructor
  · intro h s hs hsame
    have ht := h s.type (mem_alphabetical _)
    by_contra hboth
    rw [not_or] at hboth
    apply ht
    simpa [hboth] using ⟨s, hs, rfl, hsame⟩
  · intro h t _ ht
    simp only [Bool.and_eq_true, List.any_eq_true, List.mem_filter, decide_eq_true_eq,
      Bool.not_eq_true'] at ht
    obtain ⟨⟨hc, hn⟩, s, ⟨hs, rfl⟩, hsame⟩ := ht
    rcases h s hs hsame with hc' | hn'
    · exact hc hc'
    · simp [hn'] at hn

theorem clashes_eq_nil {z : Zone} {i : Nat} {rs : List Record} :
    clashes z i rs = [] ↔ ∀ r ∈ rs, r.type = .cname → conflicts r.name z = [] := by
  induction rs generalizing i with
  | nil => simp
  | cons r rs ih =>
    have hr : (clash? z r i).toList = [] ↔ (r.type = .cname → conflicts r.name z = []) := by
      simp only [clash?, coexistence]
      split
      case isTrue hc => cases conflicts r.name z <;> simp [hc]
      case isFalse hc => simp [hc]
    rw [clashes_cons, List.append_eq_nil_iff, hr, ih, List.forall_mem_cons]

end Cname

namespace Audit

variable {domain : String} {all : List Record}

theorem builtin_cname {z : Zone} {r : Record} (hr : r.type = .cname) (t : Mx.Tracker) :
    builtin z t r =
      (Cname.format r z).toList ++ (Cname.apex r z).toList ++ (Cname.coexistence r z).toList := by
  rw [builtin_of_kind (Kind.of?_eq_cname.2 hr) (by decide)]
  simp [Kind.rules, Cname.rules]

/-- Without the full zone no alias shares its name with anything. -/
theorem coexistence_alone (r : Record) : Cname.coexistence r (.bare domain all) = none := by
  have hconflicts : Cname.conflicts r.name (.bare domain all) = [] := by
    simp [Cname.conflicts, Zone.fullOfType, Zone.fullRecords]
  simp [Cname.coexistence, hconflicts]

/-- Apart from aliases and starts of authority, the records under audit stand in for the zone. -/
theorem builtin_alone {r : Record} (hc : r.type ≠ .cname) (hs : r.type ≠ .soa) (t : Mx.Tracker) :
    builtin (.complete domain all) t r = builtin (.bare domain all) t r := by
  have hrun (k : Kind) (hk : Kind.of? domain r = some k) :
      Rule.run k.rules r (.complete domain all) = Rule.run k.rules r (.bare domain all) := by
    refine Kind.run_congr k (by rfl) ?_ ?_ r
    · exact fun _ => rfl
    · rintro (rfl | rfl)
      · exact absurd (Kind.of?_eq_cname.1 hk) hc
      · exact absurd (Kind.of?_eq_soa.1 hk) hs
  simp only [builtin]
  split
  · rfl
  · exact hrun _ ‹_›
  · rfl

/-- On a record that is no start of authority the full zone adds the clash of an alias, if any. -/
theorem builtin_full {r : Record} (hr : r.type ≠ .soa) (t : Mx.Tracker) (i : Nat) :
    (builtin (.complete domain all) t r).map (·.atRecord i) =
      (builtin (.bare domain all) t r).map (·.atRecord i) ++
        (Cname.clash? (.complete domain all) r i).toList := by
  by_cases hc : r.type = .cname
  · rw [builtin_cname hc, builtin_cname hc, coexistence_alone, Cname.clash?, if_pos hc]
    cases Cname.coexistence r (.complete domain all) with
    | none => simp [Cname.format, Cname.apex]
    | some d => simp [Cname.format, Cname.apex]
  · simp [builtin_alone hc hr, Cname.clash?, hc]

/-- What the full zone adds to a walk are the clashes of its aliases, and nothing is lost by it. -/
theorem walk_full (o : Options) {rs : List Record} (h : ∀ r ∈ rs, r.type ≠ .soa) (i : Nat)
    (t : Mx.Tracker) :
    (walk ⟨o, []⟩ (.bare domain all) i t rs).Sublist (walk ⟨o, []⟩ (.complete domain all) i t rs) ∧
    (walk ⟨o, []⟩ (.complete domain all) i t rs).Perm
      (walk ⟨o, []⟩ (.bare domain all) i t rs ++ Cname.clashes (.complete domain all) i rs) := by
  induction rs generalizing i t with
  | nil => exact ⟨List.Sublist.refl _, List.Perm.refl _⟩
  | cons r rs ih =>
    obtain ⟨hsub, hperm⟩ := ih (fun s hs => h s (by simp [hs])) (i + 1)
      (trackerAfter (.bare domain all) t r)
    have hafter : trackerAfter (.complete domain all) t r =
        trackerAfter (.bare domain all) t r := rfl
    have hadvice : advisories ⟨o, []⟩ (.complete domain all) r =
        advisories ⟨o, []⟩ (.bare domain all) r := rfl
    have hcustom : custom ⟨o, []⟩ (.complete domain all) r =
        custom ⟨o, []⟩ (.bare domain all) r := rfl
    have hfull : (builtin (.complete domain all) t r).map (·.atRecord i) =
        (builtin (.bare domain all) t r).map (·.atRecord i) ++
          (Cname.clash? (.complete domain all) r i).toList := builtin_full (h r (by simp)) t i
    simp only [walk, onRecord, hafter, hadvice, hcustom, List.map_append, hfull,
      Cname.clashes_cons]
    constructor
    · have hbuiltin := List.sublist_append_left
        ((builtin (.bare domain all) t r).map (·.atRecord i))
        (Cname.clash? (.complete domain all) r i).toList
      exact ((hbuiltin.append (List.Sublist.refl _)).append (List.Sublist.refl _)).append hsub
    · rw [List.perm_iff_count] at hperm ⊢
      intro d
      have hd := hperm d
      simp only [List.count_append] at hd ⊢
      omega

/-- So it is with all findings, since those on the zone as a whole are the same. -/
theorem findings_full (o : Options) {rs : List Record} (h : ∀ r ∈ rs, r.type ≠ .soa) :
    (findings ⟨o, []⟩ (.bare domain rs)).Sublist (findings ⟨o, []⟩ (.complete domain rs)) ∧
    (findings ⟨o, []⟩ (.complete domain rs)).Perm
      (findings ⟨o, []⟩ (.bare domain rs) ++ Cname.clashes (.complete domain rs) 0 rs) := by
  have hzone : onZone ⟨o, []⟩ (.complete domain rs) = onZone ⟨o, []⟩ (.bare domain rs) := rfl
  obtain ⟨hsub, hperm⟩ : (walk ⟨o, []⟩ (.bare domain rs) 0 {} rs).Sublist
        (walk ⟨o, []⟩ (.complete domain rs) 0 {} rs) ∧
      (walk ⟨o, []⟩ (.complete domain rs) 0 {} rs).Perm
        (walk ⟨o, []⟩ (.bare domain rs) 0 {} rs ++ Cname.clashes (.complete domain rs) 0 rs) :=
    walk_full o h 0 {}
  rw [findings, findings, hzone]
  constructor
  · exact hsub.append (List.Sublist.refl _)
  · rw [List.perm_iff_count] at hperm ⊢
    intro d
    have hd := hperm d
    simp only [List.count_append] at hd ⊢
    omega

/-- Without the knowledge that the records under audit are all, an audit finds the same but for the
clashes of aliases. -/
theorem report_bare (o : Options) (domain : String) {rs : List Record}
    (h : ∀ r ∈ rs, r.type ≠ .soa) :
    let bare := Audit.report ⟨o, []⟩ (.bare domain rs)
    let complete := Audit.report ⟨o, []⟩ (.complete domain rs)
    bare.warnings = complete.warnings ∧
    bare.errors.Sublist complete.errors ∧
    complete.errors.Perm (bare.errors ++ Cname.clashes (.complete domain rs) 0 rs) ∧
    (bare = complete ↔ ∀ r ∈ rs, r.type = .cname → ∀ s ∈ rs,
      DomainName.same s.name r.name → s.type = .cname ∨ s.type ∈ Cname.coexisting) := by
  intro bare complete
  let a : Audit := ⟨o, []⟩
  let more := Cname.clashes (.complete domain rs) 0 rs
  obtain ⟨hsub, hperm⟩ : (a.findings (.bare domain rs)).Sublist (a.findings (.complete domain rs)) ∧
      (a.findings (.complete domain rs)).Perm (a.findings (.bare domain rs) ++ more) :=
    findings_full o h
  have hraise : more.map a.raise = more := by
    rw [List.map_congr_left (g := id), List.map_id]
    intro d hd
    exact raise_of_isError a (Cname.isError_of_mem_clashes hd)
  have hraised := hperm.map a.raise
  rw [List.map_append, hraise] at hraised
  have hinsert := Report.ofList_insert (hsub.map a.raise) hraised
    fun d => Cname.isError_of_mem_clashes
  rw [← report_eq_ofList, ← report_eq_ofList] at hinsert
  obtain ⟨hwarnings, herrors, hclashes, hequal⟩ := hinsert
  refine ⟨hwarnings, herrors, hclashes, ?_⟩
  rw [hequal, Cname.clashes_eq_nil]
  simp only [Cname.conflicts_eq_nil]
  rfl

/-- An alias may share its name with signatures. So on a zone with a signed alias, and with two
exchanges of one priority, nothing is missed. -/
theorem report_bare_signed_alias :
    let rs : List Record := [⟨.cname, "www.example.com", 3600, "example.net"⟩,
      ⟨.rrsig, "WWW.example.com.", 3600, "CNAME 13 3 3600"⟩,
      ⟨.mx, "example.com", 3600, "10 mail.example.net"⟩,
      ⟨.mx, "example.com", 3600, "10 relay.example.net"⟩]
    (∀ r ∈ rs, r.type ≠ .soa) ∧
    Audit.report ⟨{}, []⟩ (.bare "example.com" rs) =
      Audit.report ⟨{}, []⟩ (.complete "example.com" rs) := by
  intro rs
  have h : ∀ r ∈ rs, r.type ≠ .soa := by decide
  obtain ⟨-, -, -, hiff⟩ := report_bare {} "example.com" h
  exact ⟨h, hiff.2 (by decide +kernel)⟩

/-- The clash of an alias with an address is missed. -/
theorem report_bare_misses_clash :
    let rs : List Record := [⟨.cname, "www.example.com", 3600, "example.net"⟩,
      ⟨.a, "www.example.com", 3600, "192.0.2.1"⟩]
    (∀ r ∈ rs, r.type ≠ .soa) ∧
    Audit.report ⟨{}, []⟩ (.bare "example.com" rs) ≠
      Audit.report ⟨{}, []⟩ (.complete "example.com" rs) := by
  decide +kernel

end Audit
end ZoneAudit
