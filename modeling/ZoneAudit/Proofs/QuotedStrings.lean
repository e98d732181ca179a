import ZoneAudit.Doh
import ZoneAudit.Proofs.TagSegments

/-!
Quoted character-strings read back. The scan of a text is inside of a string or outside. An escaped
string never ends the one that it is in, and outside nothing counts but the next quotation mark. So
strings that are quoted one by one, with any blanks between and around them, are read as they were,
and joined.
-/

namespace ZoneAudit

namespace Text.Quoted

/-- The string with a backslash before each quotation mark and backslash. -/
def escaped (s : List Char) : List Char :=
  s.flatMap fun c => if c = '"' ∨ c = '\\' then ['\\', c] else [c]

/-- Strings as they are printed, each of them quoted and with blanks in front of it. -/
def printed (parts : List (List Char × List Char)) : List Char :=
  parts.flatMap fun part => part.1 ++ quote part.2

variable {c : Char} {gap trail : List Char} {parts : List (List Char × List Char)}

/-! One step of the scan. -/

theorem content_quotation (inside : Bool) (r : List Char) :
    content inside ('"' :: r) = content (!inside) r := by
  rw [content]

theorem content_escape (c : Char) (r : List Char) :
    content true ('\\' :: c :: r) = c :: content true r := by
  simp [content]

theorem content_inside (hquote : c ≠ '"') (hslash : c ≠ '\\') (r : List Char) :
    content true (c :: r) = c :: content true r := by
  simp [content, hslash]

theorem content_outside (hquote : c ≠ '"') (r : List Char) :
    content false (c :: r) = content false r := by
  by_cases hslash : c = '\\'
  · rw [hslash]
    cases r <;> simp [content]
  · simp [content, hslash]

/-! The scan of a string and of the blanks between two. -/

theorem content_escaped (s r : List Char) :
    content true (escaped s ++ r) = s ++ content true r := by
  induction s with
  | nil => rfl
  | cons c s ih =>
    have hcons : escaped (c :: s) = (if c = '"' ∨ c = '\\' then ['\\', c] else [c]) ++ escaped s := rfl
    rw [hcons, List.append_assoc]
    by_cases hc : c = '"' ∨ c = '\\'
    · rw [if_pos hc, List.cons_append, List.singleton_append, content_escape, ih, List.cons_append]
    · rw [if_neg hc, List.singleton_append]
      rw [not_or] at hc
      rw [content_inside hc.1 hc.2, ih, List.cons_append]

theorem quote_append (s r : List Char) : quote s ++ r = '"' :: (escaped s ++ '"' :: r) := by
  simp [quote, escaped]

/-- A quoted string is read as it was, and the scan is outside again. -/
theorem content_quote (s r : List Char) : content false (quote s ++ r) = s ++ content false r := by
  rw [quote_append, content_quotation, Bool.not_false, content_escaped, content_quotation, Bool.not_true]

theorem content_gap (hgap : IsGap gap) (r : List Char) :
    content false (gap ++ r) = content false r := by
  induction gap with
  | nil => rfl
  | cons c gap ih =>
    rw [IsGap, List.forall_mem_cons] at hgap
    have hquote : c ≠ '"' := by
      rintro rfl
      exact absurd hgap.1 (by decide)
    rw [List.cons_append, content_outside hquote, ih hgap.2]

theorem content_printed (hgaps : ∀ part ∈ parts, IsGap part.1) :
    content false (printed parts) = parts.flatMap (·.2) := by
  induction parts with
  | nil => rfl
  | cons part parts ih =>
    rw [List.forall_mem_cons] at hgaps
    rw [printed, List.flatMap_cons, ← printed, List.append_assoc, content_gap hgaps.1, content_quote,
      ih hgaps.2, List.flatMap_cons]

theorem printed_cons_append (part : List Char × List Char) (parts : List (List Char × List Char))
    (r : List Char) : printed (part :: parts) ++ r =
      part.1 ++ '"' :: (escaped part.2 ++ '"' :: (printed parts ++ r)) := by
  rw [printed, List.flatMap_cons, ← printed, List.append_assoc, List.append_assoc, quote_append]

/-- The last quotation mark is the end of what is printed. -/
theorem trimEnd_printed (htrail : IsGap trail) (parts : List (List Char × List Char)) :
    trimEnd (printed parts ++ trail) = printed parts := by
  induction parts with
  | nil => exact List.rdropWhile_eq_nil_iff.2 htrail
  | cons part parts ih =>
    rw [printed_cons_append, trimEnd_append_of_not_blank (by decide),
      trimEnd_append_of_not_blank (by decide), ih]
    simpa using (printed_cons_append part parts []).symm

theorem unquote_printed (hne : parts ≠ []) (hgaps : ∀ part ∈ parts, IsGap part.1)
    (htrail : IsGap trail) : unquote (printed parts ++ trail) = parts.flatMap (·.2) := by
  obtain ⟨⟨gap, s⟩, parts, rfl⟩ := List.exists_cons_of_ne_nil hne
  rw [List.forall_mem_cons] at hgaps
  have htrim : trim (printed ((gap, s) :: parts) ++ trail) =
      '"' :: (escaped s ++ '"' :: printed parts) := by
    rw [printed_cons_append, trim_append_of_not_blank (by decide), trimStart_gap hgaps.1,
      trimEnd_append_of_not_blank (by decide), trimEnd_printed htrail, List.nil_append]
  simp only [unquote, htrim]
  rw [content_escaped, content_quotation, Bool.not_true, content_printed hgaps.2, List.flatMap_cons]

end Text.Quoted

namespace Doh.Answer
open Text Text.Quoted

/-- Strings that are quoted one by one, with any blanks between and around them, are read back
joined, and so is the data of an answer. -/
theorem unquote_toRecord_printed (parts : List (List Char × List Char)) (trail : List Char)
    (hne : parts ≠ []) (hgaps : ∀ part ∈ parts, IsGap part.1) (htrail : IsGap trail) :
    unquote (printed parts ++ trail) = parts.flatMap (·.2) ∧
    ∀ (name : String) (ttl : UInt32),
      toRecord ⟨name, 16, ttl, String.ofList (printed parts ++ trail)⟩ =
        .ok ⟨.txt, name, ttl, String.ofList (parts.flatMap (·.2))⟩ := by
  have hread := unquote_printed hne hgaps htrail
  refine ⟨hread, fun name ttl => ?_⟩
  have htype : RecordType.ofCode 16 = .ok .txt := by decide
  rw [toRecord, htype, String.toList_ofList, hread]
  rfl

/-- Marks and blanks inside of a string are kept, and strings may touch. -/
theorem unquote_toRecord_printed_touching :
    let parts := [(" ".toList, "a\x22 \\".toList), ([], []), ("\t".toList, "\x22b".toList)]
    parts ≠ [] ∧ (∀ part ∈ parts, IsGap part.1) ∧ IsGap "\n".toList ∧
    printed parts ++ "\n".toList = " \x22a\\\x22 \\\\\x22\x22\x22\t\x22\\\x22b\x22\n".toList ∧
    toRecord ⟨"example.org", 16, 3600, String.ofList (printed parts ++ "\n".toList)⟩ =
      .ok ⟨.txt, "example.org", 3600, "a\x22 \\\x22b"⟩ := by
  intro parts
  have hgaps : ∀ part ∈ parts, IsGap part.1 := by decide
  have htrail : IsGap "\n".toList := by decide
  have hread := unquote_toRecord_printed parts "\n".toList (by decide) hgaps htrail
  exact ⟨by decide, hgaps, htrail, by decide, hread.2 "example.org" 3600⟩

end Doh.Answer
end ZoneAudit
