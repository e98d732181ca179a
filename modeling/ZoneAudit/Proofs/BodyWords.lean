import ZoneAudit.Proofs.ExchangeVerdict
import ZoneAudit.Proofs.PlainNumerals
import ZoneAudit.Proofs.SmallLetters

/-!
Bodies that are read word by word: those of mail exchanges, starts of authority and services. Only
the words of such a body count for its parser and for the rules. The fields of a parsed body are
words again, numbers in plain numerals and the target of an exchange in lower case, so with any
blanks between them they are read back as the same body.
-/

namespace ZoneAudit
open Text

/-- Only the words of a body count. The fields of a proper body, with any blanks between them, are
read as that body. -/
structure ReadByWords {Body : Type} (parse? : String → Option Body) (fields : Body → List (List Char))
    (render : Body → String) (Proper : Body → Prop) : Prop where
  congr : ∀ s t : String, words s.toList = words t.toList → parse? s = parse? t
  of_spread : ∀ b s, Proper b → Spread (fields b) s → parse? (String.ofList s) = some b
  reread : ∀ data b, parse? data = some b → parse? (render b) = some b

/-- The rule answers the same for all bodies with the same words. -/
def Rule.ReadsWords (rule : Rule) : Prop :=
  ∀ (r : Record) (data : String) (z : Zone), words data.toList = words r.data.toList →
    rule { r with data := data } z = rule r z

/-! Fields and single blanks between them. -/

theorem Text.trail_flatMap (ws : List (List Char)) : Trail ws (ws.flatMap (' ' :: ·)) := by
  induction ws with
  | nil => exact .nil (List.forall_mem_nil _)
  | cons w ws ih =>
    have hblank : IsGap [' '] := by decide
    exact .cons hblank (List.cons_ne_nil _ _) ih

theorem Text.spread_intercalate (ws : List (List Char)) : Spread ws ([' '].intercalate ws) := by
  cases ws with
  | nil => exact .nil (List.forall_mem_nil _)
  | cons w ws =>
    rw [intercalate_cons_eq]
    exact .cons (List.forall_mem_nil _) (trail_flatMap ws)

/-- A parser that reads the fields of a proper body, all of them words, and no body but a proper
one. -/
theorem readByWords_of {Body : Type} {parse? : String → Option Body} {fields : Body → List (List Char)}
    {Proper : Body → Prop}
    (hcongr : ∀ s t : String, words s.toList = words t.toList → parse? s = parse? t)
    (hwords : ∀ b, Proper b → ∀ w ∈ fields b, IsWord w)
    (hread : ∀ b data, Proper b → words data.toList = fields b → parse? data = some b)
    (hproper : ∀ data b, parse? data = some b → Proper b) :
    ReadByWords parse? fields (fun b => String.ofList ([' '].intercalate (fields b))) Proper := by
  have hspread (b : Body) (s : List Char) (hb : Proper b) (hs : Spread (fields b) s) :
      parse? (String.ofList s) = some b := by
    refine hread b _ hb ?_
    rw [String.toList_ofList]
    exact words_eq_iff.2 ⟨hs, hwords b hb⟩
  exact ⟨hcongr, hspread, fun data b h => hspread b _ (hproper data b h) (spread_intercalate _)⟩

/-! Mail exchanges. -/

namespace Mx

/-- The target is a word in lower case. -/
structure Body.Proper (b : Body) : Prop where
  isWord_target : IsWord b.target.toList
  lower_target : lower b.target.toList = b.target.toList

variable {b : Body} {s t data : String}

theorem parse?_congr (h : words s.toList = words t.toList) : parse? s = parse? t := by
  rw [parse?, parse?, h]

theorem Body.Proper.isWord (h : b.Proper) : ∀ w ∈ b.fields, IsWord w := by
  simp [fields, isWord_decimal, h.isWord_target]

theorem parse?_of_fields (h : b.Proper) (hwords : words data.toList = b.fields) :
    parse? data = some b :=
  parse?_eq_some_iff.2 ⟨_, _, hwords, .plain (writesDigits_decimal _), h.lower_target.symm⟩

theorem proper_of_parse? (h : parse? data = some b) : b.Proper := by
  obtain ⟨priority, target, hwords, -, htarget⟩ := parse?_eq_some_iff.1 h
  have hword : IsWord target := isWord_of_mem_words (s := data.toList) (by simp [hwords])
  exact ⟨htarget ▸ isWord_lower hword, by rw [htarget, lower_lower]⟩

theorem readByWords : ReadByWords parse? Body.fields Body.render Body.Proper :=
  readByWords_of (fun _ _ => parse?_congr) (fun _ h => h.isWord) (fun _ _ => parse?_of_fields)
    fun _ _ => proper_of_parse?

theorem rules_readWords : ∀ rule ∈ rules, rule.ReadsWords := by
  simp only [rules, List.forall_mem_cons]
  refine ⟨fun r data z h => ?_, fun r data z h => ?_, List.forall_mem_nil _⟩
  · simp only [nullExchange, parse?_congr h]
  · simp only [target, parse?_congr h]

theorem Tracker.check_readsWords (t : Tracker) (r : Record) (z : Zone)
    (h : words data.toList = words r.data.toList) : t.check { r with data := data } z = t.check r z := by
  simp only [check, parse?_congr h]

end Mx

/-! Starts of authority. -/

namespace Soa

/-- Both names are words. -/
structure Body.Proper (b : Body) : Prop where
  isWord_mname : IsWord b.mname.toList
  isWord_rname : IsWord b.rname.toList

variable {b : Body} {s t data : String}

theorem parse?_congr (h : words s.toList = words t.toList) : parse? s = parse? t := by
  rw [parse?, parse?, h]

theorem Body.Proper.isWord (h : b.Proper) : ∀ w ∈ b.fields, IsWord w := by
  simp [fields, isWord_signedDecimal, h.isWord_mname, h.isWord_rname]

theorem parse?_of_fields (hwords : words data.toList = b.fields) : parse? data = some b := by
  simp [parse?, hwords, Body.fields, int64?_signedDecimal]

theorem proper_of_parse? (h : parse? data = some b) : b.Proper := by
  obtain ⟨_, _, _, _, _, hwords, -⟩ := words_of_parse? h
  exact ⟨isWord_of_mem_words (s := data.toList) (by simp [hwords]),
    isWord_of_mem_words (s := data.toList) (by simp [hwords])⟩

theorem readByWords : ReadByWords parse? Body.fields Body.render Body.Proper :=
  readByWords_of (fun _ _ => parse?_congr) (fun _ h => h.isWord) (fun _ _ _ => parse?_of_fields)
    fun _ _ => proper_of_parse?

theorem onBody_readsWords (check : Body → Zone → Option Fault) : (onBody check).ReadsWords := by
  intro r data z h
  simp only [onBody, parse?_congr h]

theorem rules_readWords : ∀ rule ∈ serialFormat :: rules, rule.ReadsWords := by
  simp only [rules, List.forall_mem_cons]
  refine ⟨fun r data z h => ?_, onBody_readsWords _, onBody_readsWords _, onBody_readsWords _,
    onBody_readsWords _, List.forall_mem_nil _⟩
  simp only [serialFormat, parse?_congr h]

end Soa

/-! Services. -/

namespace Srv

/-- All four fields are words. -/
def Body.Proper (b : Body) : Prop := ∀ w ∈ b.fields, IsWord w

variable {b : Body} {s t data : String}

theorem parse?_congr (h : words s.toList = words t.toList) : parse? s = parse? t := by
  rw [parse?, parse?, h]

theorem parse?_of_fields (hwords : words data.toList = b.fields) : parse? data = some b := by
  simp [parse?, hwords, Body.fields]

theorem proper_of_parse? (h : parse? data = some b) : b.Proper := fun _ hw =>
  isWord_of_mem_words (words_of_parse? h ▸ hw)

theorem readByWords : ReadByWords parse? Body.fields Body.render Body.Proper :=
  readByWords_of (fun _ _ => parse?_congr) (fun _ h => h) (fun _ _ _ => parse?_of_fields)
    fun _ _ => proper_of_parse?

/-- A check that sees no more of the record than its owner. -/
theorem onBody_readsWords {check : Body → Record → Option Fault}
    (hcheck : ∀ b r data, check b { r with data := data } = check b r) : (onBody check).ReadsWords := by
  intro r data z h
  simp only [onBody, parse?_congr h, hcheck]

theorem rules_readWords : ∀ rule ∈ rules, rule.ReadsWords := by
  simp only [rules, List.forall_mem_cons]
  exact ⟨onBody_readsWords fun _ _ _ => rfl, onBody_readsWords fun _ _ _ => rfl,
    onBody_readsWords fun _ _ _ => rfl, onBody_readsWords fun _ _ _ => rfl,
    onBody_readsWords fun _ _ _ => rfl, List.forall_mem_nil _⟩

end Srv

/-- Exchanges, starts of authority and services with the same words parse alike and are answered
alike, and a body that is read is read again from its rendering. -/
theorem bodies_read_by_words :
    ReadByWords Mx.parse? Mx.Body.fields Mx.Body.render Mx.Body.Proper ∧
    ReadByWords Soa.parse? Soa.Body.fields Soa.Body.render Soa.Body.Proper ∧
    ReadByWords Srv.parse? Srv.Body.fields Srv.Body.render Srv.Body.Proper ∧
    (∀ rule ∈ Mx.rules ++ (Soa.serialFormat :: Soa.rules) ++ Srv.rules, rule.ReadsWords) ∧
    ∀ (t : Mx.Tracker) (r : Record) (data : String) (z : Zone),
      words data.toList = words r.data.toList → t.check { r with data := data } z = t.check r z := by
  refine ⟨Mx.readByWords, Soa.readByWords, Srv.readByWords, ?_, fun t r _ z => t.check_readsWords r z⟩
  rw [List.forall_mem_append, List.forall_mem_append]
  exact ⟨⟨Mx.rules_readWords, Soa.rules_readWords⟩, Srv.rules_readWords⟩

/-- A plus sign, a superfluous zero, a capital of two small characters and a final sigma: none of
them is left once the body has been rendered. -/
theorem bodies_read_by_words_sigma :
    let r : Record := ⟨.mx, "example.org", 3600, "\t+010  \u0130\u03A3.\n"⟩
    let data := "+010 \u0130\u03A3."
    let b : Mx.Body := ⟨10, "i\u0307\u03C2."⟩
    let z : Zone := ⟨"example.org", [r], none⟩
    words data.toList = words r.data.toList ∧ Mx.parse? data = Mx.parse? r.data ∧
    Mx.target { r with data := data } z = Mx.target r z ∧
    Mx.parse? r.data = some b ∧ b.render = "10 i\u0307\u03C2." ∧ Mx.parse? b.render = some b := by
  intro r data b z
  obtain ⟨hmx, -, -, hrules, -⟩ := bodies_read_by_words
  have hwords : words data.toList = words r.data.toList := by decide
  have hparse : Mx.parse? r.data = some b := by decide +kernel
  exact ⟨hwords, hmx.congr _ _ hwords, hrules Mx.target (by simp [Mx.rules]) r data z hwords, hparse,
    by decide, hmx.reread _ _ hparse⟩

end ZoneAudit
