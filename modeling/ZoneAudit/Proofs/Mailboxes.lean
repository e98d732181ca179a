import ZoneAudit.Proofs.NamePatterns
import ZoneAudit.Soa

/-!
The grammar of mailboxes. A mailbox has one at sign. Before it stands a local part of letters,
digits and marks, after it one label or more with dots between them, and the last of them is a label
like any other. The pattern by which mailboxes are also known says the same, and a responsible name
is accepted just if it stands for a mailbox of this form.
-/

namespace ZoneAudit

namespace Mailbox
open Text DomainName
open scoped Computability

/-- A letter, a digit or a mark that may stand in a local part. -/
def IsUserChar (c : Char) : Prop :=
  c.isAlphanum ∨ c ∈ ['.', '!', '#', '$', '%', '&', '\x27', '*', '+', '/', '=', '?', '^', '_', '\x60',
    '\x7b', '|', '\x7d', '~', '-']

/-- One at sign, with a local part before it and labels with dots between them after it. -/
structure Spelled (s : List Char) : Prop where
  count_at : s.count '@' = 1
  parts : ∃ user domain, s = user ++ '@' :: domain ∧ user ≠ [] ∧ (∀ c ∈ user, IsUserChar c) ∧
    ∀ l ∈ domain.splitOn '.', IsLabel l

variable {s user domain : List Char} {c : Char}

theorem isLocal_iff : isLocal c ↔ IsUserChar c := by
  simp [isLocal, IsUserChar]
  grind

theorem at_notMem_user (h : ∀ c ∈ user, IsUserChar c) : '@' ∉ user := fun hat =>
  absurd (isLocal_iff.2 (h '@' hat)) (by decide)

/-- What stands between the dots of a domain has no at sign, so the domain has none. -/
theorem at_notMem_domain (h : ∀ l ∈ domain.splitOn '.', IsLabel l) : '@' ∉ domain := by
  intro hat
  rw [List.splitOn_eq_splitOnP] at h
  obtain ⟨l, hl, hatl⟩ := exists_mem_splitOnP (p := (· == '.')) hat (by decide)
  exact absurd ((h l hl).isAlphanum_or '@' hatl) (by decide)

theorem spelled_append (hne : user ≠ []) (huser : ∀ c ∈ user, IsUserChar c)
    (hdomain : ∀ l ∈ domain.splitOn '.', IsLabel l) : Spelled (user ++ '@' :: domain) := by
  refine ⟨?_, user, domain, rfl, hne, huser, hdomain⟩
  rw [List.count_append, List.count_cons_self, List.count_eq_zero.2 (at_notMem_user huser),
    List.count_eq_zero.2 (at_notMem_domain hdomain)]

theorem isValid_append (huser : '@' ∉ user) :
    isValid (user ++ '@' :: domain) ↔
      user ≠ [] ∧ (∀ c ∈ user, IsUserChar c) ∧ ∀ l ∈ domain.splitOn '.', IsLabel l := by
  simp only [isValid, cut_append huser, labels, Bool.and_eq_true, Bool.not_eq_true',
    List.isEmpty_eq_false_iff, List.all_eq_true, isLocal_iff, isLabel_iff, and_assoc]

theorem isValid_iff_spelled : isValid s ↔ Spelled s := by
  constructor
  · intro h
    have hat : '@' ∈ s := by
      by_contra hat
      simp [isValid, cut_eq_none_iff.2 hat] at h
    obtain ⟨user, domain, rfl, huser⟩ := List.eq_append_cons_of_mem hat
    obtain ⟨hne, hchars, hlabels⟩ := (isValid_append huser).1 h
    exact spelled_append hne hchars hlabels
  · rintro ⟨-, user, domain, rfl, hne, hchars, hlabels⟩
    exact (isValid_append (at_notMem_user hchars)).2 ⟨hne, hchars, hlabels⟩

/-! The pattern of mailboxes. -/

def userChar : Language Char := {s | ∃ c, IsUserChar c ∧ s = [c]}

def furtherLabel : Language Char := {['.']} * labelPattern

def mailboxPattern : Language Char :=
  userChar * userChar∗ * {['@']} * (labelPattern * furtherLabel∗)

theorem mem_furtherLabel_iff (s : List Char) :
    s ∈ furtherLabel ↔ ∃ l, IsLabel l ∧ s = '.' :: l := by
  simp only [furtherLabel, Address.mem_singleton_mul_iff, mem_labelPattern_iff, List.singleton_append]

theorem mem_userPattern_iff :
    s ∈ userChar * userChar∗ ↔ s ≠ [] ∧ ∀ c ∈ s, IsUserChar c := by
  have huser (t : List Char) : t ∈ userChar ↔ ∃ c, IsUserChar c ∧ t = [c] := Iff.rfl
  simp only [Language.mem_mul, huser, Address.mem_kstar_iff huser, List.flatMap_singleton']
  constructor
  · rintro ⟨_, ⟨c, hc, rfl⟩, _, ⟨r, hr, rfl⟩, rfl⟩
    exact ⟨by simp, List.forall_mem_cons.2 ⟨hc, hr⟩⟩
  · rintro ⟨hne, hchars⟩
    obtain ⟨c, r, rfl⟩ := List.exists_cons_of_ne_nil hne
    rw [List.forall_mem_cons] at hchars
    exact ⟨[c], ⟨c, hchars.1, rfl⟩, r, ⟨r, hchars.2, rfl⟩, rfl⟩

/-- One label, and each further one with a dot in front of it, are the parts between the dots. -/
theorem mem_domainPattern_iff :
    s ∈ labelPattern * furtherLabel∗ ↔ ∀ l ∈ s.splitOn '.', IsLabel l := by
  simp only [Language.mem_mul, mem_labelPattern_iff, Address.mem_kstar_iff mem_furtherLabel_iff]
  constructor
  · rintro ⟨first, hfirst, _, ⟨further, hfurther, rfl⟩, rfl⟩
    have hlabels := List.forall_mem_cons.2 ⟨hfirst, hfurther⟩
    rw [← intercalate_cons_eq,
      List.splitOn_intercalate '.' (fun l hl => (hlabels l hl).dot_notMem) (by simp)]
    exact hlabels
  · intro h
    obtain ⟨first, further, hsplit⟩ := List.exists_cons_of_ne_nil (List.splitOn_ne_nil '.' s)
    rw [hsplit, List.forall_mem_cons] at h
    refine ⟨first, h.1, _, ⟨further, h.2, rfl⟩, ?_⟩
    rw [← intercalate_cons_eq, ← hsplit, List.intercalate_splitOn]

theorem mem_mailboxPattern_iff : s ∈ mailboxPattern ↔ Spelled s := by
  rw [mailboxPattern, Language.mem_mul]
  simp only [Address.mem_mul_singleton_iff, mem_userPattern_iff, mem_domainPattern_iff]
  constructor
  · rintro ⟨_, ⟨user, ⟨hne, hchars⟩, rfl⟩, domain, hlabels, rfl⟩
    rw [List.append_assoc]
    exact spelled_append hne hchars hlabels
  · rintro ⟨-, user, domain, rfl, hne, hchars, hlabels⟩
    exact ⟨_, ⟨user, ⟨hne, hchars⟩, rfl⟩, domain, hlabels, by simp⟩

end Mailbox

namespace Soa

variable {r : Record} {b : Body} {address : String}

theorem rname_eq_none_iff (h : parse? r.data = some b) (haddress : Mailbox.ofRname? b.rname = some address)
    (z : Zone) : rname r z = none ↔ Mailbox.isValid address.toList := by
  simp [rname, onBody, h, haddress]

end Soa

namespace Mailbox

/-- The mailboxes are the texts spelled as one, and the rule on responsible names accepts those that
stand for such a text. -/
theorem isValid_rname_exact :
    (∀ s, (isValid s ↔ Spelled s) ∧ (s ∈ mailboxPattern ↔ Spelled s)) ∧
    ∀ (r : Record) (z : Zone) (b : Soa.Body) (address : String), Soa.parse? r.data = some b →
      ofRname? b.rname = some address → (Soa.rname r z = none ↔ Spelled address.toList) := by
  refine ⟨fun s => ⟨isValid_iff_spelled, mem_mailboxPattern_iff⟩, fun r z b address hb haddress => ?_⟩
  rw [Soa.rname_eq_none_iff hb haddress, isValid_iff_spelled]

/-- A quotation mark is in no local part, and the last label of a domain may be a number. -/
theorem isValid_rname_exact_numbered :
    let r : Record := ⟨.soa, "example.org", 3600, "ns j\\.doe+dns.example-1.0. 7 7200 900 86400 300"⟩
    let quoted : Record := { r with data := "ns \x22j\x22.example.org. 7 7200 900 86400 300" }
    let z : Zone := ⟨"example.org", [r], none⟩
    let b : Soa.Body := ⟨"ns", "j\\.doe+dns.example-1.0.", 7, 7200, 900, 86400, 300⟩
    Soa.parse? r.data = some b ∧ ofRname? b.rname = some "j.doe+dns@example-1.0" ∧
    (Soa.rname r z = none ↔ Spelled "j.doe+dns@example-1.0".toList) ∧
    Spelled "j.doe+dns@example-1.0".toList ∧
    (Soa.rname quoted z = none ↔ Spelled "\x22j\x22@example.org".toList) ∧
    ¬Spelled "\x22j\x22@example.org".toList := by
  intro r quoted z b
  have hb : Soa.parse? r.data = some b := by decide +kernel
  have haddress : ofRname? b.rname = some "j.doe+dns@example-1.0" := by decide +kernel
  refine ⟨hb, haddress, isValid_rname_exact.2 r z b _ hb haddress, ?_, ?_, ?_⟩
  · exact (isValid_rname_exact.1 _).1.1 (by decide +kernel)
  · exact isValid_rname_exact.2 quoted z ⟨"ns", "\x22j\x22.example.org.", 7, 7200, 900, 86400, 300⟩ _
      (by decide +kernel) (by decide +kernel)
  · exact fun h => absurd ((isValid_rname_exact.1 _).1.2 h) (by decide +kernel)

end Mailbox
end ZoneAudit
