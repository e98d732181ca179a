import ZoneAudit.Caa
import ZoneAudit.Proofs.PlainNumerals
import ZoneAudit.Proofs.TagSegments

/-!
The fields of authorizations. A single blank ends the flags and a single blank ends the tag; what is
left is the value, without the blanks and the quotation marks around it. So there may be any number
of blanks behind the tag, but a second one behind the flags ends an empty tag, and the tag that is
meant becomes a part of the value.
-/

namespace ZoneAudit.Caa
open Text

def quoted (value : List Char) : List Char := '"' :: (value ++ ['"'])

/-- An authorization as it may be written: flags, a tag and a value in quotation marks, with blanks
between them and any blanks around them. -/
structure Written where
  flags : UInt8
  tag : List Char
  value : List Char
  front : List Char
  afterFlags : List Char
  afterTag : List Char
  back : List Char
  isWord_tag : IsWord tag
  isGap_front : IsGap front
  isGap_afterFlags : IsGap afterFlags
  afterFlags_ne_nil : afterFlags ≠ []
  isGap_afterTag : IsGap afterTag
  afterTag_ne_nil : afterTag ≠ []
  isGap_back : IsGap back

namespace Written

/-- The fields without the blanks around them. -/
def core (w : Written) : List Char :=
  decimal w.flags.toNat ++ (w.afterFlags ++ (w.tag ++ (w.afterTag ++ quoted w.value)))

def text (w : Written) : String := String.ofList (w.front ++ w.core ++ w.back)

/-- The fields that are meant. -/
def body (w : Written) : Body := ⟨w.flags, String.ofList (lower w.tag), String.ofList w.value⟩

/-- The fields that are read if a second blank follows the flags. -/
def shifted (w : Written) : Body :=
  ⟨w.flags, "", String.ofList (unquote (w.tag ++ (w.afterTag ++ quoted w.value)))⟩

end Written

variable {s word rest : List Char} {b : Char}

/-! One field. -/

theorem cutBlank_append (hword : ∀ c ∈ word, isBlank c = false) (hb : isBlank b) (rest : List Char) :
    cutBlank (word ++ b :: rest) = (word, some rest) := by
  have hkeep : ∀ c ∈ word, (!isBlank c) = true := fun c hc => by rw [hword c hc, Bool.not_false]
  rw [cutBlank, List.takeWhile_append_of_pos hkeep, List.dropWhile_append_of_pos hkeep]
  simp [hb]

theorem unquote_quoted (value : List Char) : unquote (quoted value) = value := by
  simp [unquote, quoted]

theorem trim_append_quoted (s value : List Char) :
    trim (s ++ quoted value) = trimStart s ++ quoted value := by
  rw [quoted, trim_append_of_not_blank (by decide), trimEnd_append_of_not_blank (by decide)]
  rfl

theorem trim_gap_append_quoted {gap : List Char} (hgap : IsGap gap) (value : List Char) :
    trim (gap ++ quoted value) = quoted value := by
  rw [trim_append_quoted, trimStart_gap hgap, List.nil_append]

theorem trim_word_append_quoted (hword : IsWord word) (s value : List Char) :
    trim (word ++ s ++ quoted value) = word ++ s ++ quoted value := by
  rw [trim_append_quoted, trimStart_word_append hword]

/-! The fields in turn. -/

/-- What is made of the text behind the blank that ends the flags. -/
theorem parse?_of_flags {data : String} {flags : UInt8}
    (hdata : trim data.toList = decimal flags.toNat ++ b :: rest) (hb : isBlank b) :
    parse? data = some ⟨flags, String.ofList (lower (cutBlank rest).1),
      String.ofList (unquote (trim ((cutBlank rest).2.getD [])))⟩ := by
  simp [parse?, hdata, cutBlank_append (isWord_decimal _).not_blank hb, uint8?_decimal]

namespace Written

variable (w : Written)

theorem trim_text : trim w.text.toList = w.core := by
  have hcore : w.core =
      decimal w.flags.toNat ++ (w.afterFlags ++ w.tag ++ w.afterTag) ++ quoted w.value := by
    simp [core]
  rw [text, String.toList_ofList, trim_padded w.isGap_front w.isGap_back, hcore,
    trim_word_append_quoted (isWord_decimal _)]

/-- The blanks behind the first one that follows the flags decide what is read. -/
theorem parse?_text {gap : List Char} (h : w.afterFlags = b :: gap) :
    parse? w.text = some (if gap = [] then w.body else w.shifted) := by
  have hblank : isBlank b ∧ IsGap gap := List.forall_mem_cons.1 (h ▸ w.isGap_afterFlags)
  have hdata : trim w.text.toList =
      decimal w.flags.toNat ++ b :: (gap ++ (w.tag ++ (w.afterTag ++ quoted w.value))) := by
    rw [trim_text, core, h, List.cons_append]
  rw [parse?_of_flags hdata hblank.1]
  cases gap with
  | nil =>
    obtain ⟨c, gap, hafter⟩ := List.exists_cons_of_ne_nil w.afterTag_ne_nil
    have hgap : isBlank c ∧ IsGap gap := List.forall_mem_cons.1 (hafter ▸ w.isGap_afterTag)
    rw [List.nil_append, hafter, List.cons_append, cutBlank_append w.isWord_tag.not_blank hgap.1,
      Option.getD_some, trim_gap_append_quoted hgap.2, unquote_quoted, if_pos rfl, body]
  | cons c gap =>
    have hgap : isBlank c ∧ IsGap gap := List.forall_mem_cons.1 hblank.2
    have hcut := cutBlank_append (List.forall_mem_nil _) hgap.1
      (gap ++ (w.tag ++ (w.afterTag ++ quoted w.value)))
    have hvalue : trim (gap ++ (w.tag ++ (w.afterTag ++ quoted w.value))) =
        w.tag ++ (w.afterTag ++ quoted w.value) := by
      have hword := trim_word_append_quoted w.isWord_tag w.afterTag w.value
      rw [List.append_assoc] at hword
      rw [trim, trimStart_gap_append hgap.2, ← trim, hword]
    rw [List.nil_append] at hcut
    rw [List.cons_append, hcut, Option.getD_some, hvalue, if_neg (List.cons_ne_nil _ _), shifted]
    rfl

/-- A tag is not empty, and neither is it in lower case. -/
theorem body_tag_ne : w.body.tag ≠ "" := by
  intro h
  have hlower : lower w.tag = [] := by simpa [body] using congrArg String.toList h
  exact w.isWord_tag.ne_nil (lower_eq_nil_iff.1 hlower)

theorem shifted_ne_body : w.shifted ≠ w.body := fun h =>
  w.body_tag_ne (congrArg Body.tag h).symm

end Written

/-- An authorization is read as it is meant just if a single blank follows its flags; otherwise its
tag is read as empty and stands in the value. -/
theorem parse?_text_iff (w : Written) :
    (parse? w.text = some w.body ↔ w.afterFlags.length = 1) ∧
    (parse? w.text = some w.shifted ↔ w.afterFlags.length ≠ 1) ∧
    ∀ (name : String) (ttl : UInt32) (z : Zone),
      tag ⟨.caa, name, ttl, w.text⟩ z = none ↔ w.afterFlags.length = 1 ∧ w.body.tag ∈ tags := by
  obtain ⟨b, gap, h⟩ := List.exists_cons_of_ne_nil w.afterFlags_ne_nil
  have hread := w.parse?_text h
  have hsingle : w.afterFlags.length = 1 ↔ gap = [] := by simp [h]
  have hunknown : "" ∉ tags := by decide
  by_cases hgap : gap = []
  · rw [if_pos hgap] at hread
    simp [tag, hread, hsingle, hgap, w.shifted_ne_body.symm]
  · rw [if_neg hgap] at hread
    have hempty : w.shifted.tag = "" := rfl
    simp [tag, hread, hsingle, hgap, w.shifted_ne_body, hempty, hunknown]

/-- Two blanks behind the flags: the tag is lost, and a sound authorization is reported. -/
theorem parse?_text_drops_tag :
    let w : Written := {
      flags := 0, tag := "issue".toList, value := "ca.example.net".toList
      front := [], afterFlags := "  ".toList, afterTag := " ".toList, back := []
      isWord_tag := by decide, isGap_front := by decide
      isGap_afterFlags := by decide, afterFlags_ne_nil := by decide
      isGap_afterTag := by decide, afterTag_ne_nil := by decide
      isGap_back := by decide }
    w.text = "0  issue \x22ca.example.net\x22" ∧ parse? w.text ≠ some w.body ∧
    parse? w.text = some ⟨0, "", "issue \x22ca.example.net\x22"⟩ := by
  intro w
  exact ⟨by decide, by decide +kernel, by decide +kernel⟩

end ZoneAudit.Caa
