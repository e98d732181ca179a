import Mathlib.Data.List.Basic
import ZoneAudit.Json.Document
import ZoneAudit.Json.Printer
import ZoneAudit.Text.Split

/-!
The text of a value says what the value is. The lexer reads the text as the tokens of a document,
with every character of every text in place, and from these tokens the parser builds the document. A
numeral is the only part of a text whose end shows by what follows it.
-/

namespace ZoneAudit.Json
open Text

/-- The numeral that an integer is written as. -/
def Numeral.ofInt (n : Int) : Numeral := ⟨n < 0, n.natAbs, 0, none⟩

mutual
/-- The document that the text of a value is read as. -/
def document : Json → Document
  | .null => .null
  | .bool b => .bool b
  | .int n => .number (.ofInt n)
  | .decimal negative digits power => .number ⟨negative, digits, 0, some power⟩
  | .str s => .text (some s)
  | .arr items => .array (itemDocuments items)
  | .obj members => .object (memberDocuments members)

def itemDocuments : List Json → List Document
  | [] => []
  | j :: r => j.document :: itemDocuments r

def memberDocuments : List (String × Json) → List (Option String × Document)
  | [] => []
  | (k, j) :: r => (some k, j.document) :: memberDocuments r
end

namespace Document

mutual
/-- The tokens that a document is read from. -/
def tokens : Document → List Token
  | .null => [.null]
  | .bool b => [.bool b]
  | .number n => [.number n]
  | .text s => [.text s]
  | .array items => .beginArray :: [Token.comma].intercalate (itemTokens items) ++ [.endArray]
  | .object members =>
    .beginObject :: [Token.comma].intercalate (memberTokens members) ++ [.endObject]

def itemTokens : List Document → List (List Token)
  | [] => []
  | d :: r => d.tokens :: itemTokens r

def memberTokens : List (Option String × Document) → List (List Token)
  | [] => []
  | (k, d) :: r => (.text k :: .colon :: d.tokens) :: memberTokens r
end

end Document

namespace Lexer

/-- What may stand behind a value in the text of a value: nothing, or a character that continues no
numeral. -/
def Closes (rest : List Char) : Prop := ∀ c ∈ rest.head?, c = ',' ∨ c = ']' ∨ c = '\x7d'

/-- A text is read as a list of tokens, whatever closes it. -/
def Reads (s : List Char) (ts : List Token) : Prop :=
  ∀ rest, Closes rest → run .between (s ++ rest) = (run .between rest).map (ts ++ ·)

theorem closes_comma (rest : List Char) : Closes (',' :: rest) := by simp [Closes]

theorem closes_endArray (rest : List Char) : Closes (']' :: rest) := by simp [Closes]

theorem closes_endObject (rest : List Char) : Closes ('\x7d' :: rest) := by simp [Closes]

theorem run_cons_of_step {m m' : Mode} {c : Char} {rest : List Char} {ts : List Token}
    (h : step m c = some (ts, m')) : run m (c :: rest) = (run m' rest).map (ts ++ ·) := by
  rw [run, h, Option.bind_some]

/-- A character that completes nothing only changes the mode. -/
theorem run_cons_of_quiet {m m' : Mode} {c : Char} {rest : List Char}
    (h : step m c = some ([], m')) : run m (c :: rest) = run m' rest := by
  simp [run_cons_of_step h]

/-! Numerals. -/

/-- A numeral that may end here ends before whatever closes it. -/
theorem run_number {place : Place} (hplace : place.complete) (n : Numeral) {rest : List Char}
    (h : Closes rest) :
    run (.number place n) rest = (run .between rest).map (.number n :: ·) := by
  cases rest with
  | nil => simp [run, finish, hplace]
  | cons c rest =>
    have hc : c = ',' ∨ c = ']' ∨ c = '\x7d' := h c rfl
    have hnone : continue? place n c = none := by
      obtain rfl | rfl | rfl := hc <;> cases place <;> simp [continue?]
    have hstart : step .between c = start c := by rw [step]
    simp only [run, step, hnone, hplace, if_true]
    cases start c with
    | none => rfl
    | some p => simp [Function.comp_def]

/-- Digits lead from the mode before them to the mode that has read their number, if the first of
them and each of the others does. -/
theorem run_digits {m : Mode} {f : Nat → Mode} {n : Nat}
    (hfirst : ∀ d < 10, 0 < d ∨ n = 0 → step m d.digitChar = some ([], f d))
    (hnext : ∀ k, ∀ d < 10, step (f k) d.digitChar = some ([], f (10 * k + d)))
    (rest : List Char) : run m (Text.decimal n ++ rest) = run (f n) rest := by
  induction n using Nat.strongRecOn generalizing rest with
  | ind n ih =>
    by_cases hn : n < 10
    · have hstep := hfirst n hn (by omega)
      rw [Text.decimal, Nat.toDigits_of_lt_base hn]
      exact run_cons_of_quiet hstep
    · have hlast := hnext (n / 10) (n % 10) (by omega)
      have hsplit : 10 * (n / 10) + n % 10 = n := by omega
      have hfront : ∀ d < 10, 0 < d ∨ n / 10 = 0 → step m d.digitChar = some ([], f d) :=
        fun d hd h => hfirst d hd (by omega)
      have hrun := ih (n / 10) (by omega) hfront ((n % 10).digitChar :: rest)
      rw [Text.decimal, Nat.toDigits_of_base_le (by omega) (by omega), List.append_assoc]
      rw [Text.decimal] at hrun
      rw [List.singleton_append, hrun, run_cons_of_quiet hlast, hsplit]

theorem step_whole (b : Bool) (k : Nat) {d : Nat} (hd : d < 10) :
    step (.number .whole ⟨b, k, 0, none⟩) d.digitChar =
      some ([], .number .whole ⟨b, 10 * k + d, 0, none⟩) := by
  simp [step, continue?, addDigit, Nat.isDigit_digitChar, Nat.toNat_digitChar_of_lt_ten hd, hd]

/-- A number of more than zero ends up in the whole part of its numeral. -/
theorem run_positive {m : Mode} {b : Bool}
    (hfirst : ∀ d < 10, 0 < d →
      step m d.digitChar = some ([], .number .whole ⟨b, d, 0, none⟩))
    {n : Nat} (hn : 0 < n) (rest : List Char) :
    run m (Text.decimal n ++ rest) = run (.number .whole ⟨b, n, 0, none⟩) rest :=
  run_digits (f := fun k => .number .whole ⟨b, k, 0, none⟩)
    (fun d hd h => hfirst d hd (by omega)) (fun k _ hd => step_whole b k hd) rest

theorem start_digit : ∀ d < 10, 0 < d →
    step .between d.digitChar = some ([], .number .whole ⟨false, d, 0, none⟩) := by decide

theorem minus_digit : ∀ d < 10, 0 < d →
    step (.number .minus ⟨true, 0, 0, none⟩) d.digitChar =
      some ([], .number .whole ⟨true, d, 0, none⟩) := by decide

/-- The digits of a numeral, with or without a sign, up to where its whole part may end. -/
theorem exists_run_whole (b : Bool) (n : Nat) : ∃ place, (place = .zero ∨ place = .whole) ∧
    ∀ rest, run .between ((if b then ['-'] else []) ++ Text.decimal n ++ rest) =
      run (.number place ⟨b, n, 0, none⟩) rest := by
  have hsign (r : List Char) :
      run .between ('-' :: r) = run (.number .minus ⟨true, 0, 0, none⟩) r :=
    run_cons_of_quiet rfl
  by_cases hn : n = 0
  · refine ⟨.zero, .inl rfl, fun rest => ?_⟩
    have hzero : Text.decimal 0 = ['0'] := rfl
    subst hn
    cases b with
    | false => exact run_cons_of_quiet rfl
    | true =>
      simp only [if_true, hzero, List.cons_append, List.nil_append, hsign]
      exact run_cons_of_quiet rfl
  · refine ⟨.whole, .inr rfl, fun rest => ?_⟩
    cases b with
    | false => exact run_positive start_digit (by omega) rest
    | true =>
      simp only [if_true, List.cons_append, List.nil_append, hsign]
      exact run_positive minus_digit (by omega) rest

theorem signedDecimal_eq (n : Int) :
    signedDecimal n = (if n < 0 then ['-'] else []) ++ Text.decimal n.natAbs := by
  cases n with
  | ofNat n => simp [signedDecimal]
  | negSucc n => simp [signedDecimal, Int.negSucc_lt_zero]

theorem reads_int (n : Int) : Reads (signedDecimal n) [.number (.ofInt n)] := by
  intro rest hrest
  obtain ⟨place, hplace, hrun⟩ := exists_run_whole (n < 0) n.natAbs
  have hcomplete : place.complete := by obtain rfl | rfl := hplace <;> rfl
  have hsign : (if decide (n < 0) then ['-'] else []) = if n < 0 then ['-'] else [] := by
    simp
  rw [signedDecimal_eq, ← hsign, hrun, run_number hcomplete _ hrest]
  rfl

theorem digit_value {d : Nat} (hd : d < 10) : (d.digitChar.toNat : Int) - 0x30 = d := by
  rw [Nat.toNat_digitChar_of_lt_ten hd]
  omega

/-- A first digit of a power, after a sign or without one. -/
theorem first_power {place : Place} {b : Bool}
    (hplace : place = .power ∧ b = false ∨ place = .powerSign b) (m : Numeral)
    (hm : m.power = none) {d : Nat} (hd : d < 10) :
    step (.number place m) d.digitChar =
      some ([], .number (.powerDigits b) { m with power := some (if b then -d else d) }) := by
  have hminus : d.digitChar ≠ '-' := Nat.digitChar_ne _ (by decide)
  have hplus : d.digitChar ≠ '+' := Nat.digitChar_ne _ (by decide)
  have hdigit : d.digitChar.isDigit := by simp [Nat.isDigit_digitChar, hd]
  obtain ⟨rfl, rfl⟩ | rfl := hplace
  · simp [step, continue?, hminus, hplus, hdigit, addPower, hm, digit_value hd]
  · simp [step, continue?, hdigit, addPower, hm, digit_value hd]

/-- A further digit of a power. -/
theorem next_power (b : Bool) (m : Numeral) (k : Nat) {d : Nat} (hd : d < 10) :
    step (.number (.powerDigits b) { m with power := some (if b then -k else k) }) d.digitChar =
      some ([], .number (.powerDigits b)
        { m with power := some (if b then -(10 * k + d : Nat) else (10 * k + d : Nat)) }) := by
  have hdigit : d.digitChar.isDigit := by simp [Nat.isDigit_digitChar, hd]
  simp only [step, continue?, hdigit, addPower, if_true, digit_value hd, Option.getD_some]
  cases b with
  | false => simp
  | true =>
    simp
    omega

theorem run_power (m : Numeral) (hm : m.power = none) (power : Int) (rest : List Char) :
    ∃ b, run (.number .power m) (signedDecimal power ++ rest) =
      run (.number (.powerDigits b) { m with power := some power }) rest := by
  have hdigits {place : Place} {b : Bool}
      (hplace : place = .power ∧ b = false ∨ place = .powerSign b) (k : Nat) :
      run (.number place m) (Text.decimal k ++ rest) =
        run (.number (.powerDigits b) { m with power := some (if b then -k else k) }) rest :=
    run_digits (f := fun k =>
        .number (.powerDigits b) { m with power := some (if b then -(k : Int) else k) })
      (fun d hd _ => first_power hplace m hm hd) (fun k d hd => next_power b m k hd) rest
  cases power with
  | ofNat k => exact ⟨false, hdigits (.inl ⟨rfl, rfl⟩) k⟩
  | negSucc k =>
    have hminus : step (.number .power m) '-' = some ([], .number (.powerSign true) m) := rfl
    refine ⟨true, ?_⟩
    rw [signedDecimal, List.cons_append, run_cons_of_quiet hminus, hdigits (.inr rfl)]
    simp [Int.negSucc_eq]

theorem reads_decimal (negative : Bool) (digits : Nat) (power : Int) :
    Reads ((if negative then ['-'] else []) ++ Text.decimal digits ++ 'e' :: signedDecimal power)
      [.number ⟨negative, digits, 0, some power⟩] := by
  intro rest hrest
  obtain ⟨place, hplace, hwhole⟩ := exists_run_whole negative digits
  have he : step (.number place ⟨negative, digits, 0, none⟩) 'e' =
      some ([], .number .power ⟨negative, digits, 0, none⟩) := by
    obtain rfl | rfl := hplace <;> rfl
  obtain ⟨b, hpower⟩ := run_power ⟨negative, digits, 0, none⟩ rfl power rest
  have hsplit : (if negative then ['-'] else []) ++ Text.decimal digits ++
      'e' :: signedDecimal power ++ rest = (if negative then ['-'] else []) ++
        Text.decimal digits ++ ('e' :: (signedDecimal power ++ rest)) := by simp
  rw [hsplit, hwhole, run_cons_of_quiet he, hpower, run_number rfl _ hrest]
  rfl

/-! Texts. -/

/-- A piece that spells one character. -/
def Spells (p : Piece) (c : Char) : Prop := ∀ r, spell (p :: r) = (spell r).map (c :: ·)

theorem spells_char (c : Char) : Spells (.char c) c := fun r => by rw [spell]

theorem spells_unit {c : Char} (h : c.toNat < 0x20) : Spells (.unit c.toNat) c := by
  intro r
  have hlow : c.toNat < 0xD800 := by omega
  conv_lhs => unfold spell
  simp [hlow, Char.ofNat_toNat]

theorem hexValue?_hexDigit : ∀ n < 16, hexValue? (hexDigit n) = some n := by decide

/-- An escape of two characters. -/
theorem run_escaped {e c : Char} (hu : e ≠ 'u') (he : escaped? e = some c) (done : List Piece)
    (rest : List Char) :
    run (.text done) ('\\' :: e :: rest) = run (.text (.char c :: done)) rest := by
  have hescape : step (.text done) '\\' = some ([], .escape done) := rfl
  have hchar : step (.escape done) e = some ([], .text (.char c :: done)) := by
    simp [step, hu, he]
  rw [run_cons_of_quiet hescape, run_cons_of_quiet hchar]

/-- An escape that names a control character by its code. -/
theorem run_unit {n : Nat} (hn : n < 0x20) (done : List Piece) (rest : List Char) :
    run (.text done) ('\\' :: 'u' :: '0' :: '0' :: hexDigit (n / 16) :: hexDigit (n % 16) :: rest) =
      run (.text (.unit n :: done)) rest := by
  have hescape : step (.text done) '\\' = some ([], .escape done) := rfl
  have hunit : step (.escape done) 'u' = some ([], .unit done []) := rfl
  have hzero : step (.unit done []) '0' = some ([], .unit done [0]) := rfl
  have hzero' : step (.unit done [0]) '0' = some ([], .unit done [0, 0]) := rfl
  have hhigh : step (.unit done [0, 0]) (hexDigit (n / 16)) =
      some ([], .unit done [0, 0, n / 16]) := by
    simp [step, hexValue?_hexDigit (n / 16) (by omega)]
  have hlow : step (.unit done [0, 0, n / 16]) (hexDigit (n % 16)) =
      some ([], .text (.unit n :: done)) := by
    have hjoin : n / 16 * 16 + n % 16 = n := by omega
    simp [step, hexValue?_hexDigit (n % 16) (by omega), hjoin]
  rw [run_cons_of_quiet hescape, run_cons_of_quiet hunit, run_cons_of_quiet hzero,
    run_cons_of_quiet hzero', run_cons_of_quiet hhigh, run_cons_of_quiet hlow]

/-- However a character is written, a piece that spells it is read. -/
theorem exists_run_escape (c : Char) : ∃ p, Spells p c ∧ ∀ done rest,
    run (.text done) (escape c ++ rest) = run (.text (p :: done)) rest := by
  have hletter {e : Char} (hu : e ≠ 'u') (he : escaped? e = some c) (hc : escape c = ['\\', e]) :
      ∃ p, Spells p c ∧ ∀ done rest,
        run (.text done) (escape c ++ rest) = run (.text (p :: done)) rest := by
    refine ⟨.char c, spells_char c, fun done rest => ?_⟩
    rw [hc]
    exact run_escaped hu he done rest
  by_cases hquote : c = '"'
  · subst hquote
    exact hletter (e := '"') (by decide) rfl rfl
  by_cases hbackslash : c = '\\'
  · subst hbackslash
    exact hletter (e := '\\') (by decide) rfl rfl
  by_cases hb : c = '\x08'
  · subst hb
    exact hletter (e := 'b') (by decide) rfl rfl
  by_cases hf : c = '\x0c'
  · subst hf
    exact hletter (e := 'f') (by decide) rfl rfl
  by_cases hn : c = '\n'
  · subst hn
    exact hletter (e := 'n') (by decide) rfl rfl
  by_cases hr : c = '\r'
  · subst hr
    exact hletter (e := 'r') (by decide) rfl rfl
  by_cases ht : c = '\t'
  · subst ht
    exact hletter (e := 't') (by decide) rfl rfl
  by_cases hcontrol : c.toNat < 0x20
  · refine ⟨.unit c.toNat, spells_unit hcontrol, fun done rest => ?_⟩
    simp only [escape, hquote, hbackslash, hb, hf, hn, hr, ht, hcontrol, if_true, if_false,
      List.cons_append, List.nil_append]
    exact run_unit hcontrol done rest
  · refine ⟨.char c, spells_char c, fun done rest => ?_⟩
    have hplain : step (.text done) c = some ([], .text (.char c :: done)) := by
      simp [step, hquote, hbackslash, hcontrol]
    simp only [escape, hquote, hbackslash, hb, hf, hn, hr, ht, hcontrol, if_false,
      List.cons_append, List.nil_append]
    exact run_cons_of_quiet hplain

/-- The characters of a text are read as pieces that spell them. -/
theorem exists_run_escapes (cs : List Char) : ∃ ps, spell ps = some cs ∧ ∀ done rest,
    run (.text done) (cs.flatMap escape ++ rest) = run (.text (ps.reverse ++ done)) rest := by
  induction cs with
  | nil => exact ⟨[], rfl, fun _ _ => rfl⟩
  | cons c cs ih =>
    obtain ⟨p, hp, hrun⟩ := exists_run_escape c
    obtain ⟨ps, hps, hruns⟩ := ih
    refine ⟨p :: ps, by rw [hp, hps]; rfl, fun done rest => ?_⟩
    rw [List.flatMap_cons, List.append_assoc, hrun, hruns, List.reverse_cons, List.append_assoc]
    rfl

theorem run_printText (s : String) (rest : List Char) :
    run .between (printText s ++ rest) = (run .between rest).map (.text (some s) :: ·) := by
  obtain ⟨ps, hps, hrun⟩ := exists_run_escapes s.toList
  have hopen : step .between '"' = some ([], .text []) := rfl
  have hclose : step (.text ps.reverse) '"' = some ([.text (some s)], .between) := by
    simp [step, textToken, hps]
  have hsplit : printText s ++ rest = '"' :: (s.toList.flatMap escape ++ '"' :: rest) := by
    simp [printText]
  rw [hsplit, run_cons_of_quiet hopen, hrun, List.append_nil, run_cons_of_step hclose]
  rfl

theorem reads_printText (s : String) : Reads (printText s) [.text (some s)] :=
  fun rest _ => run_printText s rest

/-! Arrays and objects. -/

/-- A character that is a token of its own. -/
theorem run_mark {c : Char} {t : Token} (h : step .between c = some ([t], .between))
    (rest : List Char) : run .between (c :: rest) = (run .between rest).map (t :: ·) :=
  run_cons_of_step h

/-- Texts that are read as tokens are read so with commas between them. -/
theorem reads_intercalate {ss : List (List Char)} {tss : List (List Token)}
    (h : List.Forall₂ Reads ss tss) :
    Reads ([','].intercalate ss) ([Token.comma].intercalate tss) := by
  induction h with
  | nil => intro rest _; simp [List.intercalate]
  | @cons s ts ss tss hs hss ih =>
    cases hss with
    | nil => simpa using hs
    | @cons s' ts' ss tss hs' hss =>
      intro rest hrest
      have hcomma : step .between ',' = some ([.comma], .between) := rfl
      have hhead := hs (',' :: ([','].intercalate (s' :: ss) ++ rest)) (closes_comma _)
      rw [run_mark hcomma, ih rest hrest, Option.map_map, Option.map_map] at hhead
      rw [List.intercalate_cons_cons, List.intercalate_cons_cons, List.append_assoc,
        List.append_assoc, List.singleton_append, hhead]
      simp [Function.comp_def]

theorem reads_array {s : List Char} {ts : List Token} (h : Reads s ts) :
    Reads ('[' :: s ++ [']']) (.beginArray :: ts ++ [.endArray]) := by
  intro rest hrest
  have hbegin : step .between '[' = some ([.beginArray], .between) := rfl
  have hend : step .between ']' = some ([.endArray], .between) := rfl
  have hsplit : '[' :: s ++ [']'] ++ rest = '[' :: (s ++ ']' :: rest) := by simp
  rw [hsplit, run_mark hbegin, h _ (closes_endArray rest), run_mark hend]
  simp [Function.comp_def]

theorem reads_object {s : List Char} {ts : List Token} (h : Reads s ts) :
    Reads ('\x7b' :: s ++ ['\x7d']) (.beginObject :: ts ++ [.endObject]) := by
  intro rest hrest
  have hbegin : step .between '\x7b' = some ([.beginObject], .between) := rfl
  have hend : step .between '\x7d' = some ([.endObject], .between) := rfl
  have hsplit : '\x7b' :: s ++ ['\x7d'] ++ rest = '\x7b' :: (s ++ '\x7d' :: rest) := by simp
  rw [hsplit, run_mark hbegin, h _ (closes_endObject rest), run_mark hend]
  simp [Function.comp_def]

theorem reads_member (k : String) {s : List Char} {ts : List Token} (h : Reads s ts) :
    Reads (printText k ++ ':' :: s) (.text (some k) :: .colon :: ts) := by
  intro rest hrest
  have hcolon : step .between ':' = some ([.colon], .between) := rfl
  rw [List.append_assoc, List.cons_append, run_printText, run_mark hcolon, h rest hrest]
  simp [Function.comp_def]

/-- A word is a token of its own once its last character is read. -/
theorem run_word (t : Token) {left : List Char} (h : left ≠ []) (rest : List Char) :
    run (.word t left) (left ++ rest) = (run .between rest).map (t :: ·) := by
  induction left with
  | nil => exact absurd rfl h
  | cons c left ih =>
    cases left with
    | nil =>
      have hlast : step (.word t [c]) c = some ([t], .between) := by simp [step]
      exact run_cons_of_step hlast
    | cons d left =>
      have hnext : step (.word t (c :: d :: left)) c = some ([], .word t (d :: left)) := by
        simp [step]
      rw [List.cons_append, run_cons_of_quiet hnext]
      exact ih (by simp)

theorem reads_word (c : Char) (left : List Char) {t : Token} (hleft : left ≠ [])
    (h : step .between c = some ([], .word t left)) : Reads (c :: left) [t] := by
  intro rest _
  rw [List.cons_append, run_cons_of_quiet h]
  exact run_word t hleft rest

mutual
/-- The text of a value is read as the tokens of its document. -/
theorem reads_print : ∀ j : Json, Reads (print j) j.document.tokens
  | .null => reads_word 'n' ['u', 'l', 'l'] (by decide) rfl
  | .bool true => reads_word 't' ['r', 'u', 'e'] (by decide) rfl
  | .bool false => reads_word 'f' ['a', 'l', 's', 'e'] (by decide) rfl
  | .int n => by simpa only [print, document, Document.tokens] using reads_int n
  | .decimal negative digits power => by
    simpa only [print, document, Document.tokens] using reads_decimal negative digits power
  | .str s => by simpa only [print, document, Document.tokens] using reads_printText s
  | .arr items => by
    simpa only [print, document, Document.tokens] using
      reads_array (reads_intercalate (reads_printItems items))
  | .obj members => by
    simpa only [print, document, Document.tokens] using
      reads_object (reads_intercalate (reads_printMembers members))

theorem reads_printItems : ∀ items : List Json,
    List.Forall₂ Reads (printItems items) (Document.itemTokens (itemDocuments items))
  | [] => .nil
  | j :: items => .cons (reads_print j) (reads_printItems items)

theorem reads_printMembers : ∀ members : List (String × Json),
    List.Forall₂ Reads (printMembers members) (Document.memberTokens (memberDocuments members))
  | [] => .nil
  | (k, j) :: members => .cons (reads_member k (reads_print j)) (reads_printMembers members)
end

end Lexer

theorem tokens?_render (j : Json) : tokens? j.render = some j.document.tokens := by
  have hread := Lexer.reads_print j [] (by simp [Lexer.Closes])
  rw [List.append_nil] at hread
  rw [tokens?, render, String.toList_ofList, hread]
  simp [Lexer.run, Lexer.finish]

/-! The parser. -/

namespace Document

/-- No document starts where an array could end. -/
theorem exists_tokens_eq_cons (d : Document) : ∃ t r, d.tokens = t :: r ∧ t ≠ .endArray := by
  cases d <;> exact ⟨_, _, rfl, by simp⟩

mutual
/-- From the tokens of a document the parser goes on as after the document. -/
theorem value_tokens : ∀ (d : Document) (frames : List Frame) (rest : List Token),
    value frames (d.tokens ++ rest) = next frames d rest
  | .null, _, _ => by simp [tokens, value]
  | .bool b, _, _ => by simp [tokens, value]
  | .number n, _, _ => by simp [tokens, value]
  | .text s, _, _ => by simp [tokens, value]
  | .array [], _, _ => by simp [tokens, itemTokens, value, List.intercalate]
  | .array (d :: items), frames, rest => by
    obtain ⟨t, r, ht, hne⟩ := d.exists_tokens_eq_cons
    have hfirst := value_tokens d (.array [] :: frames)
      ((itemTokens items).flatMap (.comma :: ·) ++ .endArray :: rest)
    have hbegin (ts : List Token) : value frames (.beginArray :: t :: ts) =
        value (.array [] :: frames) (t :: ts) := by
      rw [value]
      rintro r ⟨rfl, rfl⟩
      exact hne rfl
    rw [next_items items [] d frames rest] at hfirst
    rw [tokens, itemTokens, intercalate_cons_eq]
    rw [ht] at hfirst ⊢
    simpa [hbegin] using hfirst
  | .object [], _, _ => by simp [tokens, memberTokens, value, List.intercalate]
  | .object ((k, d) :: members), frames, rest => by
    have hfirst := value_tokens d (.object [] k :: frames)
      ((memberTokens members).flatMap (.comma :: ·) ++ .endObject :: rest)
    rw [next_members members [] k d frames rest] at hfirst
    rw [tokens, memberTokens, intercalate_cons_eq]
    simpa [value] using hfirst

theorem next_items : ∀ (items done : List Document) (d : Document) (frames : List Frame)
    (rest : List Token),
    next (.array done :: frames) d ((itemTokens items).flatMap (.comma :: ·) ++ .endArray :: rest) =
      next frames (.array (done.reverse ++ d :: items)) rest
  | [], done, d, frames, rest => by simp [itemTokens, next]
  | e :: items, done, d, frames, rest => by
    simp only [itemTokens, List.flatMap_cons, List.cons_append, List.append_assoc]
    rw [next, value_tokens e, next_items items (d :: done) e frames rest, List.reverse_cons,
      List.append_assoc, List.singleton_append]

theorem next_members : ∀ (members done : List (Option String × Document)) (k : Option String)
    (d : Document) (frames : List Frame) (rest : List Token),
    next (.object done k :: frames) d
        ((memberTokens members).flatMap (.comma :: ·) ++ .endObject :: rest) =
      next frames (.object (done.reverse ++ (k, d) :: members)) rest
  | [], done, k, d, frames, rest => by simp [memberTokens, next]
  | (l, e) :: members, done, k, d, frames, rest => by
    simp only [memberTokens, List.flatMap_cons, List.cons_append, List.append_assoc]
    rw [next, value_tokens e, next_members members ((k, d) :: done) l e frames rest,
      List.reverse_cons, List.append_assoc, List.singleton_append]
end

theorem ofTokens?_tokens (d : Document) : ofTokens? d.tokens = some d := by
  have hvalue := value_tokens d [] []
  rw [List.append_nil] at hvalue
  rw [ofTokens?, hvalue, next]

/-- The text of a value is read as its document. -/
theorem parse?_render (j : Json) : parse? j.render = some j.document := by
  rw [parse?, tokens?_render, Option.bind_some, ofTokens?_tokens]

end Document
end ZoneAudit.Json
