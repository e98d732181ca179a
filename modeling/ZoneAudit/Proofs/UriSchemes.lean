import Mathlib.Data.List.DropRight
import ZoneAudit.Caa
import ZoneAudit.Proofs.AliasTargets
import ZoneAudit.Proofs.ReportAddresses

/-!
Schemes of URIs. Before it looks for a scheme the parser drops characters at the ends of a text and
within it, and the scheme that it finds it writes in small letters; but it never invents one.
Whatever is read as a URI begins, less the characters that are dropped, with its scheme and a colon.
So the rules that ask for certain schemes let no address pass that begins in another way.
-/

namespace ZoneAudit
open Text

namespace Uri

/-- The text without controls and spaces in front of it and without the tabs and line breaks
in it. -/
def stripped (s : String) : List Char := unfold (s.toList.dropWhile (·.toNat ≤ 0x20))

/-- Less what is stripped of it, the text begins with the scheme, in any case, and a colon. -/
def Opens (scheme s : String) : Prop :=
  ∃ name rest, stripped s = name ++ ':' :: rest ∧ Recased name scheme.toList

/-- A reading fails, or it is a URI of the scheme. -/
def ReadsAs (scheme : Scheme) (uri? : Option Uri) : Prop := ∀ u ∈ uri?, u.scheme = scheme.name

variable {s t rest : List Char} {u : Uri} {scheme : Scheme} {name : String}

/-! The scheme that a URI is read with. -/

@[simp] theorem readsAs_none : ReadsAs scheme none := fun _ hu => absurd hu (Option.not_mem_none _)

@[simp] theorem readsAs_some : ReadsAs scheme (some u) ↔ u.scheme = scheme.name := by
  simp [ReadsAs]

theorem readsAs_bind {α : Type} {read : α → Option Uri} (h : ∀ a, ReadsAs scheme (read a))
    (a? : Option α) : ReadsAs scheme (a?.bind read) := by
  cases a? with
  | none => exact readsAs_none
  | some a => exact h a

@[simp] theorem scheme_withoutAuthority (scheme : Scheme) (s : List Char) :
    (withoutAuthority scheme s).scheme = scheme.name := rfl

@[simp] theorem scheme_filePath (host s : List Char) : (filePath host s).scheme = Scheme.file.name :=
  rfl

theorem readsAs_afterSlashes (scheme : Scheme) (s : List Char) :
    ReadsAs scheme (afterSlashes scheme s) := by
  unfold afterSlashes
  refine readsAs_bind (fun ⟨credentials, authority⟩ => ?_) _
  dsimp only
  split
  all_goals
    refine readsAs_bind (fun host => ?_) _
    split
    · exact readsAs_none
    · split
      · exact readsAs_bind (fun port => readsAs_some.2 rfl) _
      · exact readsAs_some.2 rfl

theorem readsAs_file (s : List Char) : ReadsAs .file (file s) := by
  unfold file
  split
  · simp
  · split
    · simp
    · unfold fileWithHost
      dsimp only
      split
      · simp
      · split
        · simp
        · rw [Option.map_eq_bind]
          refine readsAs_bind (fun host => readsAs_some.2 ?_) _
          split <;> rfl

theorem readsAs_afterScheme (scheme : Scheme) (s : List Char) :
    ReadsAs scheme (afterScheme scheme s) := by
  cases scheme with
  | file => exact readsAs_file s
  | special name port => exact readsAs_afterSlashes _ _
  | other name =>
    unfold afterScheme
    dsimp only
    split
    · exact readsAs_afterSlashes _ _
    · simp

/-! What is left of a text when its scheme is looked for. -/

theorem unfold_append (s t : List Char) : unfold (s ++ t) = unfold s ++ unfold t := List.filter_append ..

theorem unfold_colon (s : List Char) : unfold (':' :: s) = ':' :: unfold s := List.filter_cons_of_pos rfl

theorem trimControls_prefix (s : List Char) : trimControls s <+: s.dropWhile (·.toNat ≤ 0x20) :=
  List.rdropWhile_prefix _ _

theorem recased_map_toLower (s : List Char) : Recased s (s.map Char.toLower) := by
  rw [Recased, List.forall₂_map_right_iff]
  exact List.forall₂_same.2 fun c _ => caseVariant_toLower c

theorem exists_of_cutScheme (h : cutScheme s = some (name, rest)) :
    ∃ written, unfold s = written ++ ':' :: unfold rest ∧ Recased written name.toList := by
  obtain ⟨⟨front, back⟩, hcut, hname⟩ := Option.bind_eq_some_iff.1 h
  obtain ⟨rfl, -⟩ := eq_append_of_cut hcut
  dsimp only at hname
  rw [Option.ite_none_right_eq_some, Option.some.injEq, Prod.mk.injEq] at hname
  obtain ⟨-, rfl, rfl⟩ := hname
  refine ⟨unfold front, by rw [unfold_append, unfold_colon], ?_⟩
  rw [String.toList_ofList]
  exact recased_map_toLower _

/-- What is read as a URI begins with its scheme. -/
theorem opens_of_parse? {s : String} (h : parse? s = some u) : Opens u.scheme s := by
  obtain ⟨⟨name, rest⟩, hcut, hread⟩ := Option.bind_eq_some_iff.1 h
  have hscheme : u.scheme = name := by rw [readsAs_afterScheme _ _ u hread, Scheme.name_ofName]
  obtain ⟨written, hwritten, hname⟩ := exists_of_cutScheme hcut
  obtain ⟨dropped, htrim⟩ := trimControls_prefix s.toList
  refine ⟨written, unfold rest ++ unfold dropped, ?_, hscheme ▸ hname⟩
  rw [stripped, ← htrim, unfold_append, hwritten, List.append_assoc, List.cons_append]

/-- Of a text whose end is kept, nothing is dropped with the end of what follows it. -/
theorem exists_rdropWhile_append {p : Char → Bool} (h : s.rdropWhile p = s) (t : List Char) :
    ∃ rest, rest <+: t ∧ (s ++ t).rdropWhile p = s ++ rest := by
  induction t using List.reverseRecOn with
  | nil => exact ⟨[], List.prefix_rfl, by rw [List.append_nil, h]⟩
  | append_singleton t c ih =>
    rw [← List.append_assoc]
    by_cases hc : p c
    · obtain ⟨rest, hrest, hdrop⟩ := ih
      rw [List.rdropWhile_concat_pos p (s ++ t) c hc]
      exact ⟨rest, hrest.trans (List.prefix_append t [c]), hdrop⟩
    · rw [List.rdropWhile_concat_neg p (s ++ t) c hc]
      exact ⟨t ++ [c], List.prefix_rfl, List.append_assoc ..⟩

/-- A mailbox needs no more than its scheme, and has no host unless two slashes announce one. -/
theorem parse?_mailto {s : String} (h : '/' ∉ s.toList) :
    ∃ u, parse? ("mailto:" ++ s) = some u ∧ u.scheme = "mailto" ∧ u.host = "" := by
  obtain ⟨rest, hrest, hdrop⟩ := exists_rdropWhile_append
    (p := (·.toNat ≤ 0x20)) (s := "mailto:".toList) (by decide) s.toList
  have htrim : trimControls ("mailto:" ++ s).toList = "mailto".toList ++ ':' :: rest := by
    rw [String.toList_append]
    exact hdrop
  have hcut : cutScheme (trimControls ("mailto:" ++ s).toList) = some ("mailto", rest) := by
    rw [htrim, cutScheme, cut_append (by decide)]
    rfl
  have hslash : '/' ∉ unfold rest := fun hmem => h (hrest.subset (List.mem_filter.1 hmem).1)
  have hscheme : Scheme.ofName "mailto" = .other "mailto" := by decide
  refine ⟨withoutAuthority (.other "mailto") (unfold rest), ?_, rfl, rfl⟩
  rw [parse?, hcut, Option.bind_some, hscheme, afterScheme]
  split
  · next heq => simp [heq] at hslash
  · rfl

end Uri

namespace Dmarc

variable {r : Record} {z : Zone} {p : Policy}

theorem opens_of_hasScheme {schemes : List String} {s : String} (h : hasScheme schemes s) :
    ∃ scheme ∈ schemes, Uri.Opens scheme s := by
  obtain ⟨u, hparse, hscheme⟩ := hasScheme_iff.1 h
  exact ⟨u.scheme, hscheme, Uri.opens_of_parse? hparse⟩

/-- Where no address of a list is wrong, each begins with one of the schemes that the list
asks for. -/
theorem opens_of_wrong?_eq_none {schemes : List String} {uris : Option (List String)}
    (h : wrong? schemes uris = none) :
    ∀ l ∈ uris, ∀ s ∈ l, ∃ scheme ∈ schemes, Uri.Opens scheme s := by
  rintro l rfl s hs
  have hscheme := List.find?_eq_none.1 h s hs
  exact opens_of_hasScheme (by simpa using hscheme)

theorem wrong?_eq_none_of_no_error (h : parse? r.data = some p) (hfew : ¬p.Crowded)
    (hnone : ∀ d ∈ reporting r z, d.severity ≠ .error) :
    wrong? ["mailto", "https"] p.rua = none ∧ wrong? ["mailto"] p.ruf = none := by
  rw [reporting_of_not_crowded h hfew] at hnone
  cases hrua : wrong? ["mailto", "https"] p.rua with
  | some s =>
    rw [hrua] at hnone
    exact absurd rfl (hnone (Fault.aggregateUri s).diagnostic rfl)
  | none =>
    cases hruf : wrong? ["mailto"] p.ruf with
    | some s =>
      rw [hrua, hruf] at hnone
      exact absurd rfl (hnone (Fault.forensicUri s).diagnostic rfl)
    | none => exact ⟨rfl, rfl⟩

end Dmarc

theorem Caa.opens_of_iodef {r : Record} {z : Zone} {b : Caa.Body} (h : Caa.parse? r.data = some b)
    (htag : b.tag = "iodef") (hnone : Caa.iodef r z = none) :
    ∃ scheme ∈ Caa.reportSchemes, Uri.Opens scheme b.value := by
  have hany : (Uri.parse? b.value).any (Caa.reportSchemes.contains ·.scheme) := by
    simpa [Caa.iodef, Caa.onBody, h, htag] using hnone
  obtain ⟨u, hparse, hscheme⟩ := (Option.any_eq_true _ _).1 hany
  exact ⟨u.scheme, List.contains_iff_mem.1 hscheme, Uri.opens_of_parse? hparse⟩

/-- What is read as a URI begins with its scheme, so the addresses that the rules on reporting
accept begin with a scheme allowed there, in any case. -/
theorem accepted_addresses_open_with_scheme :
    (∀ (s : String) (u : Uri), Uri.parse? s = some u → Uri.Opens u.scheme s) ∧
    (∀ (r : Record) (z : Zone) (p : Dmarc.Policy), Dmarc.parse? r.data = some p →
      (p.rua.getD []).length ≤ 2 → (∀ d ∈ Dmarc.reporting r z, d.severity ≠ .error) →
      (∀ rua ∈ p.rua, ∀ s ∈ rua, Uri.Opens "mailto" s ∨ Uri.Opens "https" s) ∧
      ∀ ruf ∈ p.ruf, ∀ s ∈ ruf, Uri.Opens "mailto" s) ∧
    (∀ (r : Record) (z : Zone) (b : Caa.Body), Caa.parse? r.data = some b → b.tag = "iodef" →
      Caa.iodef r z = none →
      Uri.Opens "mailto" b.value ∨ Uri.Opens "http" b.value ∨ Uri.Opens "https" b.value) ∧
    ∀ s : String, '/' ∉ s.toList →
      ∃ u, Uri.parse? ("mailto:" ++ s) = some u ∧ u.scheme = "mailto" ∧ u.host = "" := by
  refine ⟨fun s u => Uri.opens_of_parse?, ?_, ?_, fun s => Uri.parse?_mailto⟩
  · intro r z p h hfew hnone
    have hcrowded : ¬p.Crowded := Nat.not_lt.2 hfew
    obtain ⟨haggregate, hforensic⟩ := Dmarc.wrong?_eq_none_of_no_error h hcrowded hnone
    constructor
    · intro rua hrua s hs
      simpa using Dmarc.opens_of_wrong?_eq_none haggregate rua hrua s hs
    · intro ruf hruf s hs
      simpa using Dmarc.opens_of_wrong?_eq_none hforensic ruf hruf s hs
  · intro r z b h htag hnone
    simpa [Caa.reportSchemes] using Caa.opens_of_iodef h htag hnone

/-- A folded scheme in capitals behind a control, addresses for both sorts of reports, and a mailbox
of which nothing is given. -/
theorem accepted_addresses_open_with_scheme_folded :
    let address := "\x01 MAIL\tto:a@x.com"
    let policy : Record := ⟨.txt, "_dmarc.x.com", 3600,
      "v=DMARC1; p=none; rua=\x01MAILTO:a@x.com,HTTPS://[::1]; ruf=mail\tto:b@x.com"⟩
    let incident : Record := ⟨.caa, "x.com", 3600, "0 iodef \x22 Http://[::1]\x22"⟩
    let z : Zone := ⟨"x.com", [policy, incident], none⟩
    (∃ u, Uri.parse? address = some u ∧ Uri.Opens u.scheme address) ∧
    (∃ p, Dmarc.parse? policy.data = some p ∧ (p.rua.getD []).length = 2 ∧
      (∀ d ∈ Dmarc.reporting policy z, d.severity ≠ .error) ∧
      ∃ rua ∈ p.rua, ∀ s ∈ rua, Uri.Opens "mailto" s ∨ Uri.Opens "https" s) ∧
    (∃ b, Caa.parse? incident.data = some b ∧ b.tag = "iodef" ∧ Caa.iodef incident z = none ∧
      (Uri.Opens "mailto" b.value ∨ Uri.Opens "http" b.value ∨ Uri.Opens "https" b.value)) ∧
    ∃ u, Uri.parse? ("mailto:" ++ "") = some u ∧ u.scheme = "mailto" ∧ u.host = "" := by
  intro address policy incident z
  obtain ⟨hopens, hpolicy, hincident, hmailbox⟩ := accepted_addresses_open_with_scheme
  refine ⟨?_, ?_, ?_, hmailbox "" (by decide)⟩
  · have hread : (Uri.parse? address).isSome := by decide +kernel
    obtain ⟨u, hu⟩ := Option.isSome_iff_exists.1 hread
    exact ⟨u, hu, hopens address u hu⟩
  · have hread : (Dmarc.parse? policy.data).any fun p => p.rua.any (·.length = 2) := by
      decide +kernel
    obtain ⟨p, hp, htwo⟩ := (Option.any_eq_true _ _).1 hread
    obtain ⟨rua, hrua, hlength⟩ := (Option.any_eq_true _ _).1 htwo
    have hlength : (p.rua.getD []).length = 2 := by simpa [hrua] using hlength
    have hnone : ∀ d ∈ Dmarc.reporting policy z, d.severity ≠ .error := by
      have hall : (Dmarc.reporting policy z).all (·.severity ≠ .error) := by decide +kernel
      simpa using (Option.all_eq_true _ _).1 hall
    exact ⟨p, hp, hlength, hnone, rua, hrua,
      (hpolicy policy z p hp (Nat.le_of_eq hlength) hnone).1 rua hrua⟩
  · have hread : (Caa.parse? incident.data).any (·.tag = "iodef") := by decide +kernel
    obtain ⟨b, hb, htag⟩ := (Option.any_eq_true _ _).1 hread
    have htag : b.tag = "iodef" := by simpa using htag
    have hnone : Caa.iodef incident z = none := by decide +kernel
    exact ⟨b, hb, htag, hnone, hincident incident z b hb htag hnone⟩

/-- Without the stripping it would not do: a blank in front of the address is let pass. -/
theorem Caa.iodef_takes_indented :
    let r : Record := ⟨.caa, "x.com", 3600, "0 iodef \x22 mailto:a@x.com\x22"⟩
    Caa.parse? r.data = some ⟨0, "iodef", " mailto:a@x.com"⟩ ∧
      Caa.iodef r ⟨"x.com", [r], none⟩ = none ∧
      ∀ scheme ∈ Caa.reportSchemes,
        ¬(scheme ++ ":").toList <+: " mailto:a@x.com".toList.map Char.toLower := by
  decide +kernel

end ZoneAudit
