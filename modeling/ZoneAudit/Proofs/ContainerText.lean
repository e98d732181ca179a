import Mathlib.Data.List.Forall2
import ZoneAudit.Proofs.ReadBack
import ZoneAudit.Proofs.TextMarks

/-!
The texts of arrays and objects. A document is built from its own tokens and from no others, and the
brackets and commas among them are marks. So a text is that of an array or an object just if it is
made of the texts of the items or members, with commas between them and brackets around them.
-/

namespace ZoneAudit.Json
open Text

namespace Document

/-! Tokens. -/

theorem itemTokens_eq (items : List Document) : itemTokens items = items.map tokens := by
  induction items with
  | nil => rfl
  | cons d items ih => rw [itemTokens, ih, List.map_cons]

theorem memberTokens_eq (members : List (Option String × Document)) :
    memberTokens members = members.map fun m => .text m.1 :: .colon :: m.2.tokens := by
  induction members with
  | nil => rfl
  | cons m members ih => rw [memberTokens, ih, List.map_cons]

/-- The tokens that open containers were read from. -/
def opened : List Frame → List Token
  | [] => []
  | .array done :: frames =>
    opened frames ++ .beginArray :: (itemTokens done.reverse).flatMap (· ++ [.comma])
  | .object done k :: frames =>
    opened frames ++ .beginObject :: (memberTokens done.reverse).flatMap (· ++ [.comma]) ++
      [.text k, .colon]

theorem tokens_array_concat (done : List Document) (d : Document) :
    (array (d :: done).reverse).tokens =
      .beginArray :: (itemTokens done.reverse).flatMap (· ++ [.comma]) ++ d.tokens ++ [.endArray] := by
  rw [tokens, List.reverse_cons, itemTokens_eq, List.map_append, List.map_singleton,
    intercalate_append_singleton, itemTokens_eq]
  rfl

theorem tokens_object_concat (done : List (Option String × Document)) (k : Option String)
    (d : Document) :
    (object ((k, d) :: done).reverse).tokens =
      .beginObject :: (memberTokens done.reverse).flatMap (· ++ [.comma]) ++
        .text k :: .colon :: d.tokens ++ [.endObject] := by
  rw [tokens, List.reverse_cons, memberTokens_eq, List.map_append, List.map_singleton,
    intercalate_append_singleton, memberTokens_eq]
  rfl

/-- What has been read and what is to be read are in the end the tokens of the document. -/
theorem tokens_of_value (frames : List Frame) (ts : List Token) :
    ∀ d, value frames ts = some d → d.tokens = opened frames ++ ts := by
  revert frames ts
  apply value.induct
    (fun frames ts => ∀ d, value frames ts = some d → d.tokens = opened frames ++ ts)
    (fun frames e ts => ∀ d, next frames e ts = some d →
      d.tokens = opened frames ++ (e.tokens ++ ts))
  case case1 =>
    intro frames r ih d h
    rw [value] at h
    rw [ih d h, tokens]
    rfl
  case case2 | case3 | case4 =>
    intro frames _ r ih d h
    rw [value] at h
    rw [ih d h, tokens]
    rfl
  case case5 =>
    intro frames r ih d h
    rw [value] at h
    rw [ih d h]
    rfl
  case case6 =>
    intro frames r hr ih d h
    rw [value] at h
    · rw [ih d h, opened]
      simp [itemTokens]
    · exact hr
  case case7 =>
    intro frames r ih d h
    rw [value] at h
    rw [ih d h]
    rfl
  case case8 =>
    intro frames k r ih d h
    rw [value] at h
    rw [ih d h, opened]
    simp [memberTokens]
  case case9 =>
    intros
    rename_i h
    rw [value] at h
    · cases h
    all_goals assumption
  case case10 =>
    intro d d' h
    rw [next] at h
    cases h
    simp [opened]
  case case11 =>
    intro done frames d r ih d' h
    rw [next] at h
    rw [ih d' h, opened, opened, List.reverse_cons, itemTokens_eq, List.map_append, itemTokens_eq]
    simp
  case case12 =>
    intro done frames d r ih d' h
    rw [next] at h
    rw [ih d' h, tokens_array_concat, opened]
    simp
  case case13 =>
    intro done k frames d l r ih d' h
    rw [next] at h
    rw [ih d' h, opened, opened, List.reverse_cons, memberTokens_eq, List.map_append, memberTokens_eq]
    simp
  case case14 =>
    intro done k frames d r ih d' h
    rw [next] at h
    rw [ih d' h, tokens_object_concat, opened]
    simp
  case case15 =>
    intros
    rename_i h
    rw [next] at h
    · cases h
    all_goals assumption

/-- A document is built from its own tokens only. -/
theorem ofTokens?_eq_some_iff {ts : List Token} {d : Document} :
    ofTokens? ts = some d ↔ ts = d.tokens := by
  constructor
  · intro h
    exact (tokens_of_value [] ts d h).symm
  · rintro rfl
    exact ofTokens?_tokens d

/-- A text that is read as a document. -/
def Writes (d : Document) (s : List Char) : Prop := parse? (String.ofList s) = some d

theorem writes_iff {d : Document} {s : List Char} :
    d.Writes s ↔ Lexer.run .between s = some d.tokens := by
  rw [Writes, parse?, tokens?, String.toList_ofList, Option.bind_eq_some_iff]
  simp only [ofTokens?_eq_some_iff, exists_eq_right]

end Document

/-! Brackets. -/

/-- Parts with commas between them, in brackets with blanks around them. -/
def Bracketed (opening closing : Char) (parts : List (List Char)) (s : List Char) : Prop :=
  ∃ a b d, Lexer.IsSpace a ∧ Lexer.IsSpace b ∧ Lexer.IsSpace d ∧
    s = a ++ opening :: (b ++ ([','].intercalate parts ++ closing :: d))

namespace Lexer

/-- A text that is read as tokens, on its own. -/
def Lexed (s : List Char) (ts : List Token) : Prop := run .between s = some ts

variable {s : List Char} {ts : List Token} {parts : List (List Char)} {tss : List (List Token)}
  {t u : Token} {opening closing : Char}

theorem lexed_append_mark {c : Char} (ht : t.mark? = some c) {us : List Token} {r : List Char}
    (hs : Lexed s ts) (hr : Lexed r us) : Lexed (s ++ c :: r) (ts ++ t :: us) := by
  rw [Lexed] at hr
  rw [Lexed, run_append_mark ht hs, hr, Option.map_some]

theorem exists_lexed_of_mark {c : Char} (ht : t.mark? = some c) {us : List Token}
    (h : Lexed s (ts ++ t :: us)) : ∃ a b, s = a ++ c :: b ∧ Lexed a ts ∧ Lexed b us := by
  have hproper : Mode.between.Proper := trivial
  exact exists_run_of_mark hproper ht h

/-- Parts after the first, each with a comma in front. -/
theorem lexed_parts_iff : Lexed s (ts ++ tss.flatMap (.comma :: ·)) ↔
    ∃ part parts, s = part ++ parts.flatMap (',' :: ·) ∧ Lexed part ts ∧
      List.Forall₂ Lexed parts tss := by
  have hcomma : Token.comma.mark? = some ',' := rfl
  induction tss generalizing s ts with
  | nil => simp
  | cons us tss ih =>
    rw [List.flatMap_cons, List.cons_append]
    constructor
    · intro h
      obtain ⟨part, r, rfl, hpart, hr⟩ := exists_lexed_of_mark hcomma h
      obtain ⟨next, parts, rfl, hnext, hparts⟩ := ih.1 hr
      exact ⟨part, next :: parts, by simp, hpart, .cons hnext hparts⟩
    · rintro ⟨part, parts, rfl, hpart, hparts⟩
      cases hparts with
      | @cons next _ parts _ hnext hparts =>
        rw [List.flatMap_cons, List.cons_append]
        exact lexed_append_mark hcomma hpart (ih.2 ⟨next, parts, rfl, hnext, hparts⟩)

theorem lexed_intercalate_iff : Lexed s ([Token.comma].intercalate tss) ↔
    ∃ b parts, IsSpace b ∧ s = b ++ [','].intercalate parts ∧ List.Forall₂ Lexed parts tss := by
  have hproper : Mode.between.Proper := trivial
  cases tss with
  | nil =>
    constructor
    · intro h
      exact ⟨s, [], (isSpace_of_run hproper h).2, by simp [List.intercalate], .nil⟩
    · rintro ⟨b, parts, hb, rfl, hparts⟩
      cases hparts
      simpa [List.intercalate, Lexed] using run_space hb
  | cons ts tss =>
    rw [intercalate_cons_eq, lexed_parts_iff]
    constructor
    · rintro ⟨part, parts, rfl, hpart, hparts⟩
      exact ⟨[], part :: parts, List.forall_mem_nil _, by simp [intercalate_cons_eq],
        .cons hpart hparts⟩
    · rintro ⟨b, parts, hb, rfl, hparts⟩
      cases hparts with
      | @cons part _ parts _ hpart hparts =>
        refine ⟨b ++ part, parts, by simp [intercalate_cons_eq], ?_, hparts⟩
        rw [Lexed, run_space_append hb]
        exact hpart

/-- A text is read as tokens in brackets just if it is made of parts in brackets. -/
theorem lexed_bracketed_iff (ht : t.mark? = some opening) (hu : u.mark? = some closing) :
    Lexed s (t :: ([Token.comma].intercalate tss ++ [u])) ↔
      ∃ parts, Bracketed opening closing parts s ∧ List.Forall₂ Lexed parts tss := by
  constructor
  · intro h
    have hopening : Lexed s ([] ++ t :: ([Token.comma].intercalate tss ++ [u])) := h
    obtain ⟨a, r, rfl, ha, hr⟩ := exists_lexed_of_mark ht hopening
    obtain ⟨r, d, rfl, hr, hd⟩ := exists_lexed_of_mark hu hr
    obtain ⟨b, parts, hb, rfl, hparts⟩ := lexed_intercalate_iff.1 hr
    have hproper : Mode.between.Proper := trivial
    exact ⟨parts, ⟨a, b, d, (isSpace_of_run hproper ha).2, hb, (isSpace_of_run hproper hd).2,
      by simp⟩, hparts⟩
  · rintro ⟨parts, ⟨a, b, d, ha, hb, hd, rfl⟩, hparts⟩
    have hinside := lexed_intercalate_iff.2 ⟨b, parts, hb, rfl, hparts⟩
    have hclosed := lexed_append_mark hu hinside (run_space hd)
    rw [List.append_assoc] at hclosed
    have hspace : Lexed a [] := run_space ha
    exact lexed_append_mark ht hspace hclosed

end Lexer

namespace Document

/-- The text of a member: the texts of its name and of its value. -/
structure MemberText where
  name : List Char
  value : List Char

def MemberText.text (m : MemberText) : List Char := m.name ++ ':' :: m.value

def MemberText.Writes (m : MemberText) (member : Option String × Document) : Prop :=
  (Document.text member.1).Writes m.name ∧ member.2.Writes m.value

variable {s : List Char}

theorem lexed_member_iff {part : List Char} {member : Option String × Document} :
    Lexer.Lexed part (.text member.1 :: .colon :: member.2.tokens) ↔
      ∃ m : MemberText, m.text = part ∧ m.Writes member := by
  have hcolon : Token.colon.mark? = some ':' := rfl
  simp only [MemberText.Writes, writes_iff]
  constructor
  · intro h
    have hpart : Lexer.Lexed part ([.text member.1] ++ .colon :: member.2.tokens) := h
    obtain ⟨name, value, rfl, hname, hvalue⟩ := Lexer.exists_lexed_of_mark hcolon hpart
    exact ⟨⟨name, value⟩, rfl, hname, hvalue⟩
  · rintro ⟨m, rfl, hname, hvalue⟩
    exact Lexer.lexed_append_mark hcolon hname hvalue

theorem lexed_members_iff {parts : List (List Char)} {members : List (Option String × Document)} :
    List.Forall₂ Lexer.Lexed parts (members.map fun m => .text m.1 :: .colon :: m.2.tokens) ↔
      ∃ ms : List MemberText, ms.map (·.text) = parts ∧
        List.Forall₂ MemberText.Writes ms members := by
  induction members generalizing parts with
  | nil => simp [eq_comm]
  | cons member members ih =>
    simp only [List.map_cons, List.forall₂_cons_right_iff, lexed_member_iff, ih]
    constructor
    · rintro ⟨_, _, ⟨m, rfl, hm⟩, ⟨ms, rfl, hms⟩, rfl⟩
      exact ⟨m :: ms, rfl, m, ms, hm, hms, rfl⟩
    · rintro ⟨_, rfl, m, ms, hm, hms, rfl⟩
      exact ⟨_, _, ⟨m, rfl, hm⟩, ⟨ms, rfl, hms⟩, rfl⟩

/-- The texts of an array. -/
theorem writes_array_iff {items : List Document} : (array items).Writes s ↔
    ∃ parts, Bracketed '[' ']' parts s ∧ List.Forall₂ (fun part d => d.Writes part) parts items := by
  have hbegin : Token.beginArray.mark? = some '[' := rfl
  have hend : Token.endArray.mark? = some ']' := rfl
  simp only [writes_iff, tokens, itemTokens_eq]
  refine (Lexer.lexed_bracketed_iff hbegin hend).trans ?_
  simp only [List.forall₂_map_right_iff, Lexer.Lexed]

/-- The texts of an object. -/
theorem writes_object_iff {members : List (Option String × Document)} :
    (object members).Writes s ↔ ∃ ms : List MemberText,
      Bracketed '\x7b' '\x7d' (ms.map (·.text)) s ∧ List.Forall₂ MemberText.Writes ms members := by
  have hbegin : Token.beginObject.mark? = some '\x7b' := rfl
  have hend : Token.endObject.mark? = some '\x7d' := rfl
  rw [writes_iff, tokens, memberTokens_eq]
  refine (Lexer.lexed_bracketed_iff hbegin hend).trans ?_
  simp only [lexed_members_iff]
  constructor
  · rintro ⟨parts, hparts, ms, rfl, hms⟩
    exact ⟨ms, hparts, hms⟩
  · rintro ⟨ms, hparts, hms⟩
    exact ⟨_, hparts, ms, rfl, hms⟩

end Document
end ZoneAudit.Json
