import ZoneAudit.Proofs.AddressFamilies
import ZoneAudit.Proofs.Attribution
import ZoneAudit.Proofs.Dispatch
import ZoneAudit.Proofs.PolicyTerms
import ZoneAudit.Proofs.Strict

/-!
Recognition of sender policies. A record is recognized by the start of its text and read word by
word, and the two agree: what is recognized is read, with a version that starts as it should. So an
audit never finds a recognized record malformed, and it counts recognized records. Which records it
checks as sender policies is another matter: at the name of the domain policy a record is taken for
that.
-/

namespace ZoneAudit
open Text

/-- A text that starts with another is another text just if it is longer. -/
theorem Text.ne_iff_length_lt {part s : String} (h : startsWith part s.toList) :
    s ≠ part ↔ part.length < s.toList.length := by
  rw [startsWith, List.isPrefixOf_iff_prefix] at h
  have hle := h.length_le
  have heq : part = s ↔ part.toList.length = s.toList.length :=
    ⟨fun h => by rw [h], fun hlength => String.toList_inj.1 (h.eq_of_length hlength)⟩
  rw [ne_comm, Ne, heq, ← String.length_toList]
  omega

namespace Spf

variable {r : Record} {p : Policy} {f : Fault}

/-- A record is recognized as a sender policy if and only if it is read as one of the right version
or one that continues it. -/
theorem isPolicy_iff_parse? : isPolicy r ↔
    r.type = .txt ∧ ∃ p, parse? r.data = some p ∧ startsWith "v=spf1" p.version.toList := by
  have hblank : ∀ c ∈ "v=spf1".toList, isBlank c = false := by
    have hall : "v=spf1".toList.all fun c => !isBlank c := by decide
    simpa only [List.all_eq_true, Bool.not_eq_true'] using hall
  have hshort {w : List Char} (hw : startsWith "v=spf1" w) : startsWith "v=spf" w := by
    rw [startsWith, List.isPrefixOf_iff_prefix] at hw ⊢
    exact List.IsPrefix.trans (by decide) hw
  rw [isPolicy, Bool.and_eq_true, decide_eq_true_eq, startsWith_trimStart_iff (by decide) hblank]
  refine and_congr_right fun _ => ?_
  constructor
  · rintro ⟨w, hw, hstart⟩
    obtain ⟨terms, hwords⟩ := List.head?_eq_some_iff.1 hw
    refine ⟨⟨String.ofList w, terms.filterMap mechanism?⟩, ?_, by rwa [String.toList_ofList]⟩
    refine parse?_eq_some_iff.2 ⟨terms, by rw [String.toList_ofList, hwords], ?_, rfl⟩
    rw [String.toList_ofList]
    exact hshort hstart
  · rintro ⟨p, hp, hstart⟩
    obtain ⟨terms, hwords, -, -⟩ := parse?_eq_some_iff.1 hp
    exact ⟨p.version.toList, by simp [hwords], hstart⟩

/-! What the rules find on a body that is read, fault by fault. -/

def formFault? (p : Policy) : Option Fault :=
  if p.version ≠ "v=spf1" then some (.version p.version)
  else if p.mechanisms.getLast?.any (·.method = .all) then none
  else some .missingAll

def multipleFault? (z : Zone) : Option Fault :=
  if 1 < z.whole.countP isPolicy then some (.multiple (z.whole.countP isPolicy)) else none

/-- The faults of the mechanisms of a policy. -/
def mechanismFaults (p : Policy) : List Fault :=
  (p.mechanisms.findSome? addressFault?).toList ++
    (if includesCommon p then [] else [.noProvider]) ++
    (if p.mechanisms.any (·.method = .ptr) then [.pointer] else []) ++
    if maxLookups < p.lookups then [.lookups p.lookups] else []

def faults (p : Policy) (z : Zone) : List Fault :=
  (formFault? p).toList ++ (multipleFault? z).toList ++ mechanismFaults p

theorem run_eq_faults (h : parse? r.data = some p) (z : Zone) :
    Rule.run rules r z = (faults p z).map Fault.diagnostic := by
  have hform : form r z = (formFault? p).map Fault.diagnostic := by
    simp only [form, h, formFault?]
    split
    · rfl
    · split <;> rfl
  have hmultiple : multiple r z = (multipleFault? z).map Fault.diagnostic := by
    rw [multiple, multipleFault?, apply_ite (Option.map _)]
    rfl
  simp only [rules, Rule.run_cons, Rule.run_nil, List.append_nil, hform, hmultiple, addresses,
    senders, pointers, lookupLimit, onPolicy_eq _ h, Option.toList_map]
  simp only [faults, mechanismFaults, List.map_append, List.append_assoc]
  congr 3
  congr 1
  · split <;> rfl
  congr 1
  · split <;> rfl
  · split <;> rfl

/-! The messages of the faults, told apart. -/

def malformedMessage : String := "Invalid SPF record format"

def versionMessage : String := "SPF version must be 'v=spf1'"

def multipleMessage : String :=
  "Multiple SPF records found - this may cause issues with email delivery"

theorem message_of_mem_formFault? (hf : f ∈ formFault? p) :
    f.diagnostic.message = versionMessage ∧ p.version ≠ "v=spf1" ∨
      f.diagnostic.message = Fault.missingAll.diagnostic.message ∧ p.version = "v=spf1" := by
  rw [formFault?, Option.mem_def] at hf
  split at hf
  case isTrue hversion =>
    obtain rfl := Option.some.inj hf
    exact .inl ⟨rfl, hversion⟩
  case isFalse hversion =>
    rw [Option.ite_none_left_eq_some] at hf
    obtain rfl := Option.some.inj hf.2
    exact .inr ⟨rfl, not_not.1 hversion⟩

theorem message_of_mem_multipleFault? {z : Zone} (hf : f ∈ multipleFault? z) :
    f.diagnostic.message = multipleMessage := by
  rw [multipleFault?, Option.mem_def, Option.ite_none_right_eq_some] at hf
  obtain rfl := Option.some.inj hf.2
  rfl

/-- A fault of the mechanisms says nothing of the form of the record or of other records. -/
theorem message_ne_of_mem_mechanismFaults (hf : f ∈ mechanismFaults p) {m : String}
    (hm : m ∈ [malformedMessage, versionMessage, multipleMessage]) : f.diagnostic.message ≠ m := by
  simp only [mechanismFaults, List.mem_append, Option.mem_toList, List.mem_ite_nil_left,
    List.mem_ite_nil_right, List.mem_singleton] at hf
  simp only [List.mem_cons, List.not_mem_nil, or_false] at hm
  rcases hf with ((hf | ⟨-, rfl⟩) | ⟨-, rfl⟩) | ⟨-, rfl⟩
  · obtain ⟨mechanism, -, hfault⟩ := List.exists_of_findSome?_eq_some hf
    obtain ⟨family, value, -, rfl⟩ := exists_value_of_addressFault? hfault
    obtain rfl | rfl | rfl := hm <;> cases family <;> exact ne_of_append (by decide)
  · obtain rfl | rfl | rfl := hm <;> decide
  · obtain rfl | rfl | rfl := hm <;> decide
  · simp only [Fault.diagnostic, String.append_assoc]
    obtain rfl | rfl | rfl := hm <;> exact ne_of_append (by decide)

/-- A body that is read is never found malformed. -/
theorem message_ne_malformed {z : Zone} (hf : f ∈ faults p z) :
    f.diagnostic.message ≠ malformedMessage := by
  simp only [faults, List.mem_append, Option.mem_toList] at hf
  rcases hf with (hf | hf) | hf
  · rcases message_of_mem_formFault? hf with ⟨h, -⟩ | ⟨h, -⟩ <;> rw [h] <;> decide
  · rw [message_of_mem_multipleFault? hf]
    decide
  · exact message_ne_of_mem_mechanismFaults hf (by simp)

theorem version_mem_faults (h : p.version ≠ "v=spf1") (z : Zone) :
    Fault.version p.version ∈ faults p z := by
  simp [faults, formFault?, h]

theorem version_ne_of_message {z : Zone} (hf : f ∈ faults p z)
    (hmessage : f.diagnostic.message = versionMessage) : p.version ≠ "v=spf1" := by
  simp only [faults, List.mem_append, Option.mem_toList] at hf
  rcases hf with (hf | hf) | hf
  · rcases message_of_mem_formFault? hf with ⟨-, hversion⟩ | ⟨h, -⟩
    · exact hversion
    · rw [h] at hmessage
      exact absurd hmessage (by decide)
  · rw [message_of_mem_multipleFault? hf] at hmessage
    exact absurd hmessage (by decide)
  · exact absurd hmessage (message_ne_of_mem_mechanismFaults hf (by simp))

/-- Only the rule on other records speaks of several of them. -/
theorem filter_multiple_faults (p : Policy) (z : Zone) :
    (faults p z).filter (·.diagnostic.message = multipleMessage) = (multipleFault? z).toList := by
  have hform : (formFault? p).toList.filter (·.diagnostic.message = multipleMessage) = [] := by
    rw [List.filter_eq_nil_iff]
    intro f hf
    rw [Option.mem_toList] at hf
    rcases message_of_mem_formFault? hf with ⟨h, -⟩ | ⟨h, -⟩ <;> rw [h] <;> decide
  have hmultiple : (multipleFault? z).toList.filter (·.diagnostic.message = multipleMessage) =
      (multipleFault? z).toList := by
    rw [List.filter_eq_self]
    intro f hf
    rw [Option.mem_toList] at hf
    exact decide_eq_true (message_of_mem_multipleFault? hf)
  have hmechanisms : (mechanismFaults p).filter (·.diagnostic.message = multipleMessage) = [] := by
    rw [List.filter_eq_nil_iff]
    intro f hf
    simpa using message_ne_of_mem_mechanismFaults hf (m := multipleMessage) (by simp)
  rw [faults, List.filter_append, List.filter_append, hform, hmultiple, hmechanisms,
    List.nil_append, List.append_nil]

end Spf

/-- What is said of the time of a record is not said of a sender policy. -/
theorem Ttl.message_ne_of_mem_range {r : Record} {z : Zone} {d : Diagnostic} (hd : d ∈ Ttl.range r z)
    {m : String} (hm : m ∈ [Spf.malformedMessage, Spf.versionMessage]) : d.message ≠ m := by
  obtain ⟨f, -, rfl⟩ := Option.map_eq_some_iff.1 hd
  simp only [List.mem_cons, List.not_mem_nil, or_false] at hm
  cases f <;> obtain rfl | rfl := hm <;> exact of_decide_eq_true rfl

/-- What starts as a sender policy does not start as a domain policy. -/
theorem Dmarc.isPolicy_eq {r : Record} (h : Spf.isPolicy r) (domain : String) :
    Dmarc.isPolicy r domain = Dmarc.isDomainPolicy r domain := by
  have hstart : startsWith "v=DMARC1" (trimStart r.data.toList) = false := by
    have hspf := (Bool.and_eq_true_iff.1 h).2
    rw [startsWith, List.isPrefixOf_iff_prefix] at hspf
    rw [startsWith, ← Bool.not_eq_true, List.isPrefixOf_iff_prefix]
    intro hdmarc
    exact absurd (List.prefix_of_prefix_length_le hspf hdmarc (by decide)) (by decide)
  rw [Dmarc.isPolicy, hstart, Bool.and_false, Bool.or_false]

namespace Kind

variable {domain : String} {r : Record}

/-- Checked as a sender policy is what is recognized as one, but for the name of the
domain policy. -/
theorem governs_spf (domain : String) (r : Record) :
    spf.governs domain r = (Spf.isPolicy r && !Dmarc.isDomainPolicy r domain) := by
  cases h : Spf.isPolicy r with
  | true =>
    have htype : r.type = .txt := of_decide_eq_true (Bool.and_eq_true_iff.1 h).1
    simp [governs, h, htype, Dmarc.isPolicy_eq h]
  | false => simp [governs, h]

theorem of?_eq_spf :
    of? domain r = some spf ↔ Spf.isPolicy r ∧ Dmarc.isDomainPolicy r domain = false := by
  rw [of?_eq_some_iff, governs_spf, Bool.and_eq_true, Bool.not_eq_true']

end Kind

namespace Audit

variable {z : Zone} {i : Nat} {r : Record}

/-- The same audit without the rules that its user adds. -/
def unextended (a : Audit) : Audit := { a with customRules := [] }

/-- The added rules are asked last, so what they find stands behind what the audit finds itself. -/
theorem foundAt_eq_append (a : Audit) (hr : z.records[i]? = some r) :
    a.foundAt z i = a.unextended.foundAt z i ++ (a.custom z r).map (·.atRecord i) := by
  have hown : (a.unextended.optionalAnswers z r).filterMap id = a.advisories z r := by
    rw [← optional_eq_answers]
    exact List.append_nil _
  simp only [foundAt, hr, Option.elim_some, List.filterMap_append, hown,
    ← optional_eq_answers a z r, List.map_append, List.append_assoc]

/-- The errors of a report at a position are those among the findings there. -/
theorem errors_at (a : Audit) (z : Zone) (i : Nat) :
    (a.report z).errors.filter (·.recordIndex = some i) =
      ((a.foundAt z i).map a.raise).filter (·.isError) := by
  rw [report_eq_ofList]
  exact (((a.findings_attributed z).map a.recordIndex_raise).filter _).at_position i

theorem warnings_at (a : Audit) (z : Zone) (i : Nat) :
    (a.report z).warnings.filter (·.recordIndex = some i) =
      ((a.foundAt z i).map a.raise).filter (!·.isError) := by
  rw [report_eq_ofList]
  exact (((a.findings_attributed z).map a.recordIndex_raise).filter _).at_position i

theorem mem_diagnostics_at {a : Audit} {d : Diagnostic} (hd : d ∈ (a.report z).diagnostics)
    (hi : d.recordIndex = some i) : d ∈ (a.foundAt z i).map a.raise := by
  rcases List.mem_append.1 hd with hd | hd
  · have hmem : d ∈ (a.report z).errors.filter (·.recordIndex = some i) := by simp [hd, hi]
    rw [errors_at] at hmem
    exact (List.mem_filter.1 hmem).1
  · have hmem : d ∈ (a.report z).warnings.filter (·.recordIndex = some i) := by simp [hd, hi]
    rw [warnings_at] at hmem
    exact (List.mem_filter.1 hmem).1

theorem message_raise (a : Audit) (d : Diagnostic) : (a.raise d).message = d.message := by
  rw [raise_eq]

/-- What an audit finds itself on a sender policy: the faults of the policy, then what best
practices say of its time. -/
theorem foundAt_unextended (a : Audit) {p : Spf.Policy} (hr : z.records[i]? = some r)
    (hk : Kind.of? z.domain r = some .spf) (hp : Spf.parse? r.data = some p) :
    a.unextended.foundAt z i =
      ((Spf.faults p z).map (·.diagnostic) ++
        if a.options.checkBestPractices then (Ttl.range r z).toList else []).map (·.atRecord i) := by
  have htype : r.type = .txt := (Spf.isPolicy_iff_parse?.1 (Kind.of?_eq_spf.1 hk).1).1
  have hbuiltin : (builtinAnswers z (trackerAt z i) r).filterMap id =
      (Spf.faults p z).map (·.diagnostic) := by
    rw [← builtin_eq_answers, builtin_of_kind hk (by decide), Kind.rules, Spf.run_eq_faults hp]
  have hadvice : (a.unextended.optionalAnswers z r).filterMap id =
      if a.options.checkBestPractices then (Ttl.range r z).toList else [] := by
    rw [← optional_eq_answers, advisories, unextended]
    simp [custom, htype, Ttl.rules]
  simp only [foundAt, hr, Option.elim_some, List.filterMap_append, hbuiltin, hadvice]

/-- The messages of what an audit finds itself on a sender policy. -/
theorem message_of_mem_foundAt {a : Audit} {p : Spf.Policy} {d : Diagnostic}
    (hr : z.records[i]? = some r) (hk : Kind.of? z.domain r = some .spf)
    (hp : Spf.parse? r.data = some p) (hd : d ∈ (a.unextended.foundAt z i).map a.raise) :
    (∃ f ∈ Spf.faults p z, f.diagnostic.message = d.message) ∨
      ∃ e ∈ Ttl.range r z, e.message = d.message := by
  rw [a.foundAt_unextended hr hk hp, List.map_map, List.mem_map] at hd
  obtain ⟨e, he, rfl⟩ := hd
  have hmessage : ((a.raise ∘ fun d => d.atRecord i) e).message = e.message := a.message_raise _
  rw [hmessage]
  rcases List.mem_append.1 he with he | he
  · exact .inl (List.mem_map.1 he |>.imp fun f hf => ⟨hf.1, congrArg Diagnostic.message hf.2⟩)
  · rw [List.mem_ite_nil_right, Option.mem_toList] at he
    exact .inr ⟨e, he.2, rfl⟩

/-- An audit finds the version of a sender policy wrong just if it is another than the right one. -/
theorem version_error_iff (a : Audit) {p : Spf.Policy} (hr : z.records[i]? = some r)
    (hk : Kind.of? z.domain r = some .spf) (hp : Spf.parse? r.data = some p) :
    (∃ d ∈ (a.unextended.report z).errors,
      d.recordIndex = some i ∧ d.message = Spf.versionMessage) ↔ p.version ≠ "v=spf1" := by
  constructor
  · rintro ⟨d, hd, hi, hmessage⟩
    have hmem := mem_diagnostics_at (List.mem_append_left _ hd) hi
    rcases message_of_mem_foundAt hr hk hp hmem with ⟨f, hf, h⟩ | ⟨e, he, h⟩
    · exact Spf.version_ne_of_message hf (h.trans hmessage)
    · exact absurd (h.trans hmessage) (Ttl.message_ne_of_mem_range he (by simp))
  · intro hversion
    let d := (Spf.Fault.version p.version).diagnostic.atRecord i
    have hfound : d ∈ a.unextended.foundAt z i := by
      rw [a.foundAt_unextended hr hk hp]
      exact List.mem_map_of_mem (List.mem_append_left _
        (List.mem_map_of_mem (Spf.version_mem_faults hversion z)))
    have hd : d ∈ (a.unextended.report z).errors.filter (·.recordIndex = some i) := by
      rw [errors_at]
      exact List.mem_filter.2 ⟨List.mem_map.2 ⟨d, hfound, raise_of_isError _ rfl⟩, rfl⟩
    exact ⟨d, (List.mem_filter.1 hd).1, rfl, rfl⟩

/-- A record is recognized just if it is read as a sender policy whose version may go on; the audit
never finds it malformed, only its version wrong. -/
theorem recognized_as_read (a : Audit) (z : Zone) :
    (∀ r : Record, Spf.isPolicy r ↔
      r.type = .txt ∧ ∃ p, Spf.parse? r.data = some p ∧ startsWith "v=spf1" p.version.toList) ∧
    ∀ i r, z.records[i]? = some r → Kind.of? z.domain r = some .spf →
      let own := a.unextended.report z
      let added := ((a.custom z r).map (·.atRecord i)).map a.raise
      (a.report z).errors.filter (·.recordIndex = some i) =
        own.errors.filter (·.recordIndex = some i) ++ added.filter (·.isError) ∧
      (a.report z).warnings.filter (·.recordIndex = some i) =
        own.warnings.filter (·.recordIndex = some i) ++ added.filter (!·.isError) ∧
      (∀ d ∈ own.diagnostics, d.recordIndex = some i → d.message ≠ "Invalid SPF record format") ∧
      ((∃ d ∈ own.errors, d.recordIndex = some i ∧ d.message = "SPF version must be 'v=spf1'") ↔
        ∃ w ∈ (words r.data.toList).head?, "v=spf1".length < w.length) := by
  refine ⟨fun r => Spf.isPolicy_iff_parse?, ?_⟩
  intro i r hr hk own added
  obtain ⟨-, p, hp, hstart⟩ := Spf.isPolicy_iff_parse?.1 (Kind.of?_eq_spf.1 hk).1
  have hraise : a.unextended.raise = a.raise := rfl
  refine ⟨?_, ?_, ?_, ?_⟩
  · rw [errors_at, errors_at, foundAt_eq_append a hr, List.map_append, List.filter_append, hraise]
  · rw [warnings_at, warnings_at, foundAt_eq_append a hr, List.map_append, List.filter_append, hraise]
  · intro d hd hi
    change d.message ≠ Spf.malformedMessage
    rcases message_of_mem_foundAt hr hk hp (mem_diagnostics_at hd hi) with ⟨f, hf, h⟩ | ⟨e, he, h⟩
    · rw [← h]
      exact Spf.message_ne_malformed hf
    · rw [← h]
      exact Ttl.message_ne_of_mem_range he (by simp)
  · obtain ⟨terms, hwords, -, -⟩ := Spf.parse?_eq_some_iff.1 hp
    simp only [hwords, List.head?_cons, Option.mem_some_iff, exists_eq_left',
      ← ne_iff_length_lt hstart]
    exact a.version_error_iff hr hk hp

/-- A version that goes on after the right one, and an added rule that finds every text malformed:
only the added rule finds more than the version. -/
theorem recognized_as_read_added :
    let rule : Rule := fun _ _ => some (.warning "Invalid SPF record format")
    let a : Audit := ⟨⟨true, true⟩, [(.a, rule), (.txt, rule)]⟩
    let r : Record := ⟨.txt, "www.example.com", 30, "\u00A0v=spf1.1 ~all"⟩
    let z : Zone := ⟨"example.com", [⟨.a, "example.com", 300, "192.0.2.1"⟩, r], none⟩
    let own := a.unextended.report z
    let raised : Diagnostic := (Diagnostic.error "Invalid SPF record format").atRecord 1
    z.records[1]? = some r ∧ Kind.of? z.domain r = some .spf ∧
    (a.report z).errors.filter (·.recordIndex = some 1) =
      own.errors.filter (·.recordIndex = some 1) ++ [raised] ∧
    (∀ d ∈ own.diagnostics, d.recordIndex = some 1 → d.message ≠ "Invalid SPF record format") ∧
    ∃ d ∈ own.errors, d.recordIndex = some 1 ∧ d.message = "SPF version must be 'v=spf1'" := by
  intro rule a r z own raised
  have hk : Kind.of? z.domain r = some .spf := by decide +kernel
  have hlonger : ∃ w ∈ (words r.data.toList).head?, "v=spf1".length < w.length :=
    ⟨"v=spf1.1".toList, by decide +kernel, by decide⟩
  obtain ⟨herrors, -, hread, hversion⟩ := (recognized_as_read a z).2 1 r rfl hk
  exact ⟨rfl, hk, herrors, hread, hversion.2 hlonger⟩

end Audit

/-- The sender policies at the name of the domain policy, which are checked as domain policies. -/
def Zone.misplaced (z : Zone) : Nat :=
  z.records.countP fun r => Spf.isPolicy r && Dmarc.isDomainPolicy r z.domain

/-- A recognized sender policy is checked as one, or it is misplaced. -/
theorem Zone.countP_isPolicy (z : Zone) :
    z.records.countP Spf.isPolicy = (z.ofKind .spf).length + z.misplaced := by
  rw [Zone.ofKind, ← List.countP_eq_length_filter, misplaced]
  induction z.records with
  | nil => rfl
  | cons r rs ih =>
    simp only [List.countP_cons, ih, Kind.governs_spf]
    cases Spf.isPolicy r <;> cases Dmarc.isDomainPolicy r z.domain <;> simp <;> omega

/-- The errors at a position for a number of sender policies in one zone. -/
def Spf.severalAt (i n : Nat) : List Diagnostic :=
  if 2 ≤ n then
    [((Diagnostic.error
      "Multiple SPF records found - this may cause issues with email delivery").note
      "count" (.int n)).atRecord i]
  else []

theorem Spf.multipleFault?_at (z : Zone) (i : Nat) :
    (multipleFault? z).toList.map (·.diagnostic.atRecord i) =
      severalAt i (z.whole.countP isPolicy) := by
  rw [multipleFault?, severalAt]
  by_cases h : 1 < z.whole.countP isPolicy
  · rw [if_pos h, if_pos (Nat.succ_le_of_lt h)]
    rfl
  · rw [if_neg h, if_neg (mt Nat.lt_of_succ_le h)]
    rfl

theorem Spf.isError_of_mem_severalAt {i n : Nat} : ∀ d ∈ severalAt i n, d.isError := by
  intro d hd
  rw [severalAt, List.mem_ite_nil_right, List.mem_singleton] at hd
  rw [hd.2]
  rfl

/-- Where there is a policy, more of them make another error. -/
theorem Spf.severalAt_add_eq_iff {i m n : Nat} (hn : 0 < n) :
    severalAt i (n + m) = severalAt i n ↔ m = 0 := by
  constructor
  · intro h
    by_contra hm
    rw [severalAt, severalAt, if_pos (by omega)] at h
    split at h
    · have hcount : some [("count", Json.int (n + m : Nat))] = some [("count", Json.int n)] :=
        congrArg Diagnostic.metadata (List.head_eq_of_cons_eq h)
      have hsum : ((n + m : Nat) : Int) = n := by simpa using hcount
      omega
    · cases h
  · rintro rfl
    rfl

namespace Audit

variable {z : Zone} {i : Nat} {r : Record}

/-- The one error on a sender policy that speaks of several. -/
theorem multiple_errors_at (hr : z.records[i]? = some r) (hk : Kind.of? z.domain r = some .spf) :
    ((({} : Audit).report z).errors.filter fun d =>
        d.message = Spf.multipleMessage && d.recordIndex = some i) =
      Spf.severalAt i (z.whole.countP Spf.isPolicy) := by
  obtain ⟨-, p, hp, -⟩ := Spf.isPolicy_iff_parse?.1 (Kind.of?_eq_spf.1 hk).1
  have hfound : (({} : Audit).foundAt z i).map ({} : Audit).raise =
      (Spf.faults p z).map (·.diagnostic.atRecord i) := by
    have hown : ({} : Audit).foundAt z i = _ := ({} : Audit).foundAt_unextended hr hk hp
    have hraise : ({} : Audit).raise = id := rfl
    rw [hown, hraise, List.map_id]
    simp
  have hmessage : (fun d : Diagnostic => decide (d.message = Spf.multipleMessage)) ∘
      (fun f : Spf.Fault => f.diagnostic.atRecord i) =
        fun f => decide (f.diagnostic.message = Spf.multipleMessage) := rfl
  rw [← List.filter_filter, errors_at, hfound, List.filter_comm, List.filter_map, hmessage,
    Spf.filter_multiple_faults, Spf.multipleFault?_at, List.filter_eq_self.2 Spf.isError_of_mem_severalAt]

/-- There is an error of several policies just if two or more are recognized, those at the name of
the domain policy included, and it shows their number. -/
theorem multiple_counts_recognized (hz : z.allRecords = none) (hr : z.records[i]? = some r)
    (hk : Kind.of? z.domain r = some .spf) :
    let several := (({} : Audit).report z).errors.filter fun d =>
      d.message = "Multiple SPF records found - this may cause issues with email delivery" &&
        d.recordIndex = some i
    let checked := (z.ofKind .spf).length
    several = Spf.severalAt i (checked + z.misplaced) ∧
    (several = Spf.severalAt i checked ↔ z.misplaced = 0) := by
  intro several checked
  have hcount : z.whole.countP Spf.isPolicy = checked + z.misplaced := by
    rw [Zone.whole, hz, Option.getD_none, z.countP_isPolicy]
  have hseveral : several = Spf.severalAt i (checked + z.misplaced) := by
    rw [← hcount]
    exact multiple_errors_at hr hk
  have hpos : 0 < checked := by
    have hmem : r ∈ z.ofKind .spf :=
      List.mem_filter.2 ⟨List.mem_of_getElem? hr, Kind.of?_eq_some_iff.1 hk⟩
    exact List.length_pos_of_mem hmem
  refine ⟨hseveral, ?_⟩
  rw [hseveral]
  exact Spf.severalAt_add_eq_iff hpos

/-- Two policies that are checked, one of a version of its own, and one at the name of the domain
policy. -/
theorem multiple_counts_recognized_versions :
    let r : Record := ⟨.txt, "example.com", 3600, "\tv=spf1 -all"⟩
    let z : Zone := ⟨"Example.com", [⟨.txt, "_DMARC.example.com.", 3600, "v=spf1"⟩, r,
      ⟨.txt, "www.example.com", 3600, " v=spf10 ?all"⟩], none⟩
    let several := (({} : Audit).report z).errors.filter fun d =>
      d.message = "Multiple SPF records found - this may cause issues with email delivery" &&
        d.recordIndex = some 1
    z.records[1]? = some r ∧ Kind.of? z.domain r = some .spf ∧
    several = Spf.severalAt 1 3 ∧ several ≠ Spf.severalAt 1 2 := by
  intro r z several
  have hk : Kind.of? z.domain r = some .spf := by decide +kernel
  have hchecked : (z.ofKind .spf).length = 2 := by decide +kernel
  have hmisplaced : z.misplaced = 1 := by decide +kernel
  have h := multiple_counts_recognized (z := z) (i := 1) rfl rfl hk
  rw [hchecked, hmisplaced] at h
  exact ⟨rfl, hk, h.1, fun htwo => absurd (h.2.1 htwo) (by decide)⟩

/-- A policy for senders has the error of two policies beside one at the name of the domain policy,
which is not checked as a sender policy. -/
theorem multiple_counts_misplaced :
    let z : Zone := ⟨"example.com", [⟨.txt, "example.com", 3600, "v=spf1 -all"⟩,
      ⟨.txt, "_dmarc.example.com", 3600, "v=spf1 -all"⟩], none⟩
    z.records.map (Kind.of? z.domain) = [some .spf, some .dmarc] ∧ (z.ofKind .spf).length = 1 ∧
    Spf.severalAt 0 2 ≠ [] ∧ ∀ d ∈ Spf.severalAt 0 2, d ∈ (({} : Audit).report z).errors := by
  intro z
  have hkinds : z.records.map (Kind.of? z.domain) = [some .spf, some .dmarc] := by decide +kernel
  have hlength : (z.ofKind .spf).length = 1 := by decide +kernel
  have herrors : Spf.severalAt 0 2 ≠ [] ∧
    ∀ d ∈ Spf.severalAt 0 2, d ∈ (({} : Audit).report z).errors := by decide +kernel
  exact ⟨hkinds, hlength, herrors⟩

end Audit
end ZoneAudit
