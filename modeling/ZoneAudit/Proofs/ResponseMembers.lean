import ZoneAudit.Doh
import ZoneAudit.Proofs.ObjectMembers

/-!
Responses of resolvers that word them differently. Resolvers put the members of an object in any
order and add members of their own; a response is read from the members that are known, and its
records are made of the answers of known types.
-/

namespace ZoneAudit.Doh
open Json Json.Document

/-! Wording. -/

/-- An answer is left as it is, or its members are put in another order and others are added. -/
def AnswerReworded (x y : List Char) : Prop :=
  x = y ∨ Reworded (· = ·) ["name", "type", "TTL", "data"] x y

/-- The text of a list of answers, in which each answer may be reworded. -/
def AnswersReworded (x y : List Char) : Prop :=
  ∃ xs ys, ArrayText xs x ∧ List.Forall₂ AnswerReworded xs ys ∧ Bracketed '[' ']' ys y

/-- Only in the member with the answers the value may change. -/
def MemberReworded (m n : MemberText) : Prop :=
  m.name = n.name ∧ (m.value = n.value ∨
    (Document.text (some "Answer")).Writes m.name ∧ AnswersReworded m.value n.value)

/-- The members of a response are put in another order and others are added, and so in
its answers. -/
def ResponseReworded : List Char → List Char → Prop :=
  Reworded MemberReworded ["Status", "Answer"]

namespace Answer

variable {d e : Document} {a : Answer}

theorem ofDocument?_eq_some_iff : ofDocument? d = some a ↔
    ∃ field, d.fields? ["name", "type", "TTL", "data"] = some field ∧
      (field "name").required text? = some a.name ∧ (field "type").required uint16? = some a.type ∧
      (field "TTL").required uint32? = some a.ttl ∧ (field "data").required text? = some a.data := by
  obtain ⟨name, type, ttl, data⟩ := a
  simp [ofDocument?, Option.bind_eq_some_iff]

theorem ofDocument?_extended {ms ns : List (Option String × Document)}
    (h : Extended ["name", "type", "TTL", "data"] ms ns)
    (ha : ofDocument? (.object ms) = some a) : ofDocument? (.object ns) = some a := by
  obtain ⟨f, hf, hfields⟩ := ofDocument?_eq_some_iff.1 ha
  obtain ⟨g, hg, hsame⟩ := fields?_extended h hf
  rw [← hsame "name" (by simp), ← hsame "type" (by simp), ← hsame "TTL" (by simp),
    ← hsame "data" (by simp)] at hfields
  exact ofDocument?_eq_some_iff.2 ⟨g, hg, hfields⟩

end Answer

namespace Response

variable {d e : Document} {r : Response}

/-- What the values of a member in two wordings of a response have in common. -/
def Related (name : Option String) (d e : Document) : Prop :=
  d = e ∨ name = some "Answer" ∧ KeptBy (list? Answer.ofDocument?) d e

theorem ofDocument?_eq_some_iff : ofDocument? d = some r ↔
    ∃ field, d.fields? ["Status", "Answer"] = some field ∧
      (field "Status").required uint32? = some r.status ∧
      (field "Answer").withDefault [] (list? Answer.ofDocument?) = some r.answers := by
  obtain ⟨status, answers⟩ := r
  simp [ofDocument?, Option.bind_eq_some_iff]

theorem ofDocument?_reworded {ms changed ns : List (Option String × Document)}
    (hchanged : Changed Related ms changed) (hextended : Extended ["Status", "Answer"] changed ns)
    (hr : ofDocument? (.object ms) = some r) : ofDocument? (.object ns) = some r := by
  obtain ⟨f, hf, hstatus, hanswers⟩ := ofDocument?_eq_some_iff.1 hr
  obtain ⟨f', hf', halike⟩ := fields?_changed hchanged hf
  obtain ⟨g, hg, hsame⟩ := fields?_extended hextended hf'
  refine ofDocument?_eq_some_iff.2 ⟨g, hg, ?_, ?_⟩
  · rw [hsame "Status" (by simp)]
    refine (halike "Status").required ?_ hstatus
    rintro d e (rfl | ⟨hname, -⟩)
    · exact fun _ => id
    · exact absurd hname (by decide)
  · rw [hsame "Answer" (by simp)]
    refine (halike "Answer").withDefault ?_ hanswers
    rintro d e (rfl | ⟨-, hkept⟩)
    · exact fun _ => id
    · exact hkept

theorem ofJson_eq_ok_iff {s : String} :
    ofJson s = .ok r ↔ ∃ d : Document, d.Writes s.toList ∧ ofDocument? d = some r := by
  simp only [Writes, String.ofList_toList, ← Option.bind_eq_some_iff]
  rw [ofJson]
  cases (parse? s).bind ofDocument? <;> simp

end Response

/-! What is read. -/

theorem AnswerReworded.exists_writes {x y : List Char} {d : Document} (h : AnswerReworded x y)
    (hd : d.Writes x) : ∃ e : Document, e.Writes y ∧ KeptBy Answer.ofDocument? d e := by
  rcases h with rfl | h
  · exact ⟨d, hd, fun _ => id⟩
  · have hchange (m n : MemberText) (member : Option String × Document) (hmn : m = n)
        (hm : m.Writes member) : ∃ e, n.Writes (member.1, e) ∧ member.2 = e :=
      ⟨member.2, hmn ▸ hm, rfl⟩
    obtain ⟨ms, changed, ns, rfl, hchanged, hextended, hns⟩ := h.exists_writes (fun _ => Eq) hchange hd
    have hsame : ms = changed := by
      rw [← List.forall₂_eq_eq_eq]
      exact hchanged.imp fun _ _ h => Prod.ext h.1 h.2
    subst hsame
    exact ⟨_, hns, fun a => Answer.ofDocument?_extended hextended⟩

theorem AnswersReworded.exists_writes {x y : List Char} {d : Document} (h : AnswersReworded x y)
    (hd : d.Writes x) : ∃ e : Document, e.Writes y ∧ KeptBy (list? Answer.ofDocument?) d e := by
  obtain ⟨xs, ys, ⟨hx, hxs⟩, hreworded, hy⟩ := h
  obtain ⟨ds, hds⟩ := exists_forall₂_iff.2 hxs
  obtain rfl := hd.unique (writes_array_iff.2 ⟨xs, hx, hds⟩)
  have hchange (x y : List Char) (d : Document) (hxy : AnswerReworded x y) (hd : d.Writes x) :=
    hxy.exists_writes hd
  obtain ⟨es, hes, hkept⟩ := exists_forall₂_of_change hchange hreworded hds
  exact ⟨.array es, writes_array_iff.2 ⟨ys, hy, hes⟩, .list? hkept⟩

theorem MemberReworded.exists_writes {m n : MemberText} {member : Option String × Document}
    (h : MemberReworded m n) (hm : m.Writes member) :
    ∃ e, n.Writes (member.1, e) ∧ Response.Related member.1 member.2 e := by
  obtain ⟨name, value⟩ := n
  obtain ⟨rfl, hvalue⟩ := h
  obtain ⟨hname, hd⟩ := hm
  rcases hvalue with rfl | ⟨hanswer, hanswers⟩
  · exact ⟨_, ⟨hname, hd⟩, .inl rfl⟩
  · obtain ⟨e, he, hkept⟩ := hanswers.exists_writes hd
    have hkey : member.1 = some "Answer" := by
      simpa using hname.unique hanswer
    exact ⟨e, ⟨hname, he⟩, .inr ⟨hkey, hkept⟩⟩

theorem ResponseReworded.ofJson {s t : String} {r : Response}
    (h : ResponseReworded s.toList t.toList) (hs : Response.ofJson s = .ok r) :
    Response.ofJson t = .ok r := by
  obtain ⟨d, hd, hr⟩ := Response.ofJson_eq_ok_iff.1 hs
  have hchange (m n : MemberText) (member : Option String × Document) (hmn : MemberReworded m n)
      (hm : m.Writes member) := hmn.exists_writes hm
  obtain ⟨ms, changed, ns, rfl, hchanged, hextended, hns⟩ := Reworded.exists_writes _ hchange h hd
  exact Response.ofJson_eq_ok_iff.2 ⟨_, hns, Response.ofDocument?_reworded hchanged hextended hr⟩

/-! Records. -/

/-- The registered numbers of the known types. -/
def knownCodes : List UInt16 := [1, 2, 5, 6, 15, 16, 28, 33, 46, 47, 48, 50, 257]

theorem mem_knownCodes_iff {n : UInt16} : n ∈ knownCodes ↔ ∃ t : RecordType, t.code = n := by
  have hcodes : knownCodes = RecordType.all.map RecordType.code := by decide
  rw [hcodes, List.mem_map]
  simp [RecordType.mem_all]

namespace Answer

/-- The record of an answer: only the data of texts is taken out of its quotation marks. -/
structure Becomes (a : Answer) (x : Record) : Prop where
  type : x.type.code = a.type
  name : x.name = a.name
  ttl : x.ttl = a.ttl
  data : x.data = if x.type = .txt then String.ofList (Text.Quoted.unquote a.data.toList) else a.data

theorem toRecord_of_known {a : Answer} (h : a.type ∈ knownCodes) :
    ∃ x, a.toRecord = .ok x ∧ a.Becomes x := by
  obtain ⟨t, ht⟩ := mem_knownCodes_iff.1 h
  have hfind : (RecordType.all.find? (·.code = a.type)).isSome := by
    rw [List.find?_isSome]
    exact ⟨t, RecordType.mem_all t, by simpa using ht⟩
  obtain ⟨u, hu⟩ := Option.isSome_iff_exists.1 hfind
  refine ⟨_, by rw [toRecord, RecordType.ofCode, hu]; rfl, ?_, rfl, rfl, rfl⟩
  simpa using List.find?_some hu

theorem toRecord_of_unknown {a : Answer} (h : a.type ∉ knownCodes) :
    a.toRecord = .error (.unknownTypeCode a.type) := by
  have hfind : RecordType.all.find? (·.code = a.type) = none := by
    rw [List.find?_eq_none]
    intro t _ ht
    exact h (mem_knownCodes_iff.2 ⟨t, by simpa using ht⟩)
  rw [toRecord, RecordType.ofCode, hfind]
  rfl

end Answer

namespace Response

theorem forall₂_records (as : List Answer) : List.Forall₂ Answer.Becomes
    (as.filter (·.type ∈ knownCodes)) (as.filterMap fun a => a.toRecord.toOption) := by
  induction as with
  | nil => exact .nil
  | cons a as ih =>
    by_cases h : a.type ∈ knownCodes
    · obtain ⟨x, hx, hbecomes⟩ := Answer.toRecord_of_known h
      have hsome : a.toRecord.toOption = some x := by rw [hx, Except.toOption]
      simp only [List.filterMap_cons, hsome]
      rw [List.filter_cons_of_pos (by simpa using h)]
      exact .cons hbecomes ih
    · have hnone : a.toRecord.toOption = none := by
        rw [Answer.toRecord_of_unknown h, Except.toOption]
      simp only [List.filterMap_cons, hnone]
      rw [List.filter_cons_of_neg (by simpa using h)]
      exact ih

/-- A response that is accepted is read as the same with its members in any order and any others
added; its records are the answers of known types. -/
theorem ofJson_of_reworded :
    (∀ s, (∃ members, (Document.object members).Writes s) ↔ ∃ ms, ObjectText ms s) ∧
    (∀ s, (∃ items, (Document.array items).Writes s) ↔ ∃ parts, ArrayText parts s) ∧
    (∀ (s t : String) (r : Response), ofJson s = .ok r → ResponseReworded s.toList t.toList →
      ofJson t = .ok r) ∧
    ∀ r : Response,
      List.Forall₂ Answer.Becomes (r.answers.filter (·.type ∈ knownCodes)) r.records :=
  ⟨fun _ => exists_writes_object_iff, fun _ => exists_writes_array_iff,
    fun _ _ _ hs h => h.ofJson hs, fun r => forall₂_records r.answers⟩

/-- Members in reverse, with others that are nested, repeated and out of range. -/
theorem ofJson_of_reworded_reverse :
    ofJson "\x7b\"Status\":0,\"Answer\":[\x7b\"name\":\"a\",\"type\":1,\"TTL\":5,\"data\":\"b\"\x7d]\x7d" =
      .ok ⟨0, [⟨"a", 1, 5, "b"⟩]⟩ ∧
    ofJson "\x7b\"AD\":[\x7b\"TTL\":null\x7d],\"AD\":true,\"Answer\":[\x7b\"AD\":1e999,\"data\":\"b\",\"TTL\":5,\"type\":1,\"name\":\"a\"\x7d],\"Status\":0\x7d" =
      .ok ⟨0, [⟨"a", 1, 5, "b"⟩]⟩ := by
  have hspace : Lexer.IsSpace [] := List.forall_mem_nil _
  have hcut : ObjectText
      [⟨"\"name\"".toList, "\"a\"".toList⟩, ⟨"\"type\"".toList, "1".toList⟩,
        ⟨"\"TTL\"".toList, "5".toList⟩, ⟨"\"data\"".toList, "\"b\"".toList⟩]
      "\x7b\"name\":\"a\",\"type\":1,\"TTL\":5,\"data\":\"b\"\x7d".toList := by
    refine ⟨⟨[], [], [], hspace, hspace, hspace, ?_⟩, ?_⟩
    · simp [MemberText.text, List.intercalate]
    · simp only [List.forall_mem_cons]
      exact ⟨⟨(some "name", .text (some "a")), by rfl, by rfl⟩,
        ⟨(some "type", .number ⟨false, 1, 0, none⟩), by rfl, by rfl⟩,
        ⟨(some "TTL", .number ⟨false, 5, 0, none⟩), by rfl, by rfl⟩,
        ⟨(some "data", .text (some "b")), by rfl, by rfl⟩, List.forall_mem_nil _⟩
  have hanswer : AnswerReworded "\x7b\"name\":\"a\",\"type\":1,\"TTL\":5,\"data\":\"b\"\x7d".toList
      "\x7b\"AD\":1e999,\"data\":\"b\",\"TTL\":5,\"type\":1,\"name\":\"a\"\x7d".toList := by
    refine .inr ⟨_, _, [⟨"\"AD\"".toList, "1e999".toList⟩], _, hcut, List.forall₂_refl _, ?_,
      List.reverse_perm _, [], [], [], hspace, hspace, hspace, ?_⟩
    · rw [List.forall_mem_singleton]
      exact ⟨"AD", .number ⟨false, 1, 0, some 999⟩, ⟨by rfl, by rfl⟩, by decide⟩
    · simp [MemberText.text, List.intercalate]
  have hlist : ArrayText ["\x7b\"name\":\"a\",\"type\":1,\"TTL\":5,\"data\":\"b\"\x7d".toList]
      "[\x7b\"name\":\"a\",\"type\":1,\"TTL\":5,\"data\":\"b\"\x7d]".toList := by
    refine ⟨⟨[], [], [], hspace, hspace, hspace, by simp [List.intercalate]⟩, ?_⟩
    rw [List.forall_mem_singleton]
    obtain ⟨_, hobject⟩ := exists_writes_object_iff.2 ⟨_, hcut⟩
    exact ⟨_, hobject⟩
  have hanswers : AnswersReworded "[\x7b\"name\":\"a\",\"type\":1,\"TTL\":5,\"data\":\"b\"\x7d]".toList
      "[\x7b\"AD\":1e999,\"data\":\"b\",\"TTL\":5,\"type\":1,\"name\":\"a\"\x7d]".toList :=
    ⟨_, _, hlist, .cons hanswer .nil, [], [], [], hspace, hspace, hspace,
      by simp [List.intercalate]⟩
  have hname : (Document.text (some "Answer")).Writes "\"Answer\"".toList := by rfl
  have hmember : MemberReworded
      ⟨"\"Answer\"".toList, "[\x7b\"name\":\"a\",\"type\":1,\"TTL\":5,\"data\":\"b\"\x7d]".toList⟩
      ⟨"\"Answer\"".toList, "[\x7b\"AD\":1e999,\"data\":\"b\",\"TTL\":5,\"type\":1,\"name\":\"a\"\x7d]".toList⟩ :=
    ⟨rfl, .inr ⟨hname, hanswers⟩⟩
  have hsame : MemberReworded ⟨"\"Status\"".toList, "0".toList⟩ ⟨"\"Status\"".toList, "0".toList⟩ :=
    ⟨rfl, .inl rfl⟩
  have hresponse : ResponseReworded
      "\x7b\"Status\":0,\"Answer\":[\x7b\"name\":\"a\",\"type\":1,\"TTL\":5,\"data\":\"b\"\x7d]\x7d".toList
      "\x7b\"AD\":[\x7b\"TTL\":null\x7d],\"AD\":true,\"Answer\":[\x7b\"AD\":1e999,\"data\":\"b\",\"TTL\":5,\"type\":1,\"name\":\"a\"\x7d],\"Status\":0\x7d".toList := by
    refine ⟨_, _, [⟨"\"AD\"".toList, "true".toList⟩,
      ⟨"\"AD\"".toList, "[\x7b\"TTL\":null\x7d]".toList⟩], _,
      ⟨⟨[], [], [], hspace, hspace, hspace, ?_⟩, ?_⟩, .cons hsame (.cons hmember .nil), ?_,
      List.reverse_perm _, [], [], [], hspace, hspace, hspace, ?_⟩
    · simp [MemberText.text, List.intercalate]
    · obtain ⟨_, harray⟩ := exists_writes_array_iff.2 ⟨_, hlist⟩
      simp only [List.forall_mem_cons]
      exact ⟨⟨(some "Status", .number ⟨false, 0, 0, none⟩), by rfl, by rfl⟩,
        ⟨(some "Answer", _), hname, harray⟩, List.forall_mem_nil _⟩
    · simp only [List.forall_mem_cons]
      exact ⟨⟨"AD", .bool true, ⟨by rfl, by rfl⟩, by decide⟩,
        ⟨"AD", .array [.object [(some "TTL", .null)]], ⟨by rfl, by rfl⟩, by decide⟩,
        List.forall_mem_nil _⟩
    · simp [MemberText.text, List.intercalate]
  have hs : ofJson "\x7b\"Status\":0,\"Answer\":[\x7b\"name\":\"a\",\"type\":1,\"TTL\":5,\"data\":\"b\"\x7d]\x7d" =
      .ok ⟨0, [⟨"a", 1, 5, "b"⟩]⟩ := by rfl
  exact ⟨hs, ofJson_of_reworded.2.2.1 _ _ _ hs hresponse⟩

end Response
end ZoneAudit.Doh
