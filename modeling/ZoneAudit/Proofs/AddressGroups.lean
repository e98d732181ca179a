import ZoneAudit.Proofs.DottedQuads

/-!
Addresses of groups. An address is eight units, a group being one and a dotted quad at the end two,
or at most seven around a double colon. Groups have no colon and are not empty, so the first double
colon of an address is its only one, and what is before and after it is read as it was written.
-/

namespace ZoneAudit.Address
open Text

def IsHex (c : Char) : Prop := c.isDigit ∨ 'a' ≤ c ∧ c ≤ 'f' ∨ 'A' ≤ c ∧ c ≤ 'F'

/-- One to four hexadecimal digits. -/
structure IsGroup (s : List Char) : Prop where
  length_pos : 1 ≤ s.length
  length_le : s.length ≤ 4
  isHex : ∀ c ∈ s, IsHex c

/-- Texts with colons between them. -/
def joined (gs : List (List Char)) : List Char := [':'].intercalate gs

/-- A list of groups, possibly empty, and its number of units; a dotted quad may stand at the end
and counts for two. -/
inductive Units : List Char → Nat → Prop
  | groups {gs : List (List Char)} (hgs : ∀ g ∈ gs, IsGroup g) : Units (joined gs) gs.length
  | quad {gs : List (List Char)} {q : List Char} (hgs : ∀ g ∈ gs, IsGroup g) (hq : IsQuad q) :
      Units (joined (gs ++ [q])) (gs.length + 2)

/-- The forms of an address: written out, with or without a dotted quad, or compressed. -/
inductive Spelled : List Char → Prop
  | whole {gs : List (List Char)} (hlength : gs.length = 8) (hgs : ∀ g ∈ gs, IsGroup g) :
      Spelled (joined gs)
  | embedded {gs : List (List Char)} {q : List Char} (hlength : gs.length = 6)
      (hgs : ∀ g ∈ gs, IsGroup g) (hq : IsQuad q) : Spelled (joined gs ++ ':' :: q)
  | compressed {gs : List (List Char)} {rest : List Char} {n : Nat} (hgs : ∀ g ∈ gs, IsGroup g)
      (hrest : Units rest n) (hn : gs.length + n ≤ 7) : Spelled (joined gs ++ ':' :: ':' :: rest)

/-- An address, alone or with a percent sign and a zone of letters and digits. -/
inductive Scoped : List Char → Prop
  | plain {s : List Char} (h : Spelled s) : Scoped s
  | zoned {s zone : List Char} (h : Spelled s) (hne : zone ≠ [])
      (hzone : ∀ c ∈ zone, c.isAlphanum) : Scoped (s ++ '%' :: zone)

/-- A double colon is directly followed by a digit. -/
def Loose (s : List Char) : Prop :=
  ∃ before d after, s = before ++ ':' :: ':' :: d :: after ∧ d.isDigit

variable {s : List Char} {n : Nat}

/-! Parts of an address. -/

theorem isSome_hexDigit?_iff {c : Char} : (hexDigit? c).isSome ↔ IsHex c := by
  rw [hexDigit?, IsHex]
  split_ifs <;> simp_all

theorem isSome_group?_iff : (group? s).isSome ↔ IsGroup s := by
  have hdigits : (s.mapM hexDigit?).isSome ↔ ∀ c ∈ s, IsHex c := by
    simp only [isSome_mapM_iff, isSome_hexDigit?_iff]
  rw [group?]
  split
  case isTrue h =>
    rw [Option.isSome_map, hdigits]
    exact ⟨fun hhex => ⟨h.1, h.2, hhex⟩, fun h => h.isHex⟩
  case isFalse h =>
    exact ⟨fun h => absurd h (by simp), fun hgroup => absurd ⟨hgroup.length_pos, hgroup.length_le⟩ h⟩

theorem not_isHex_colon : ¬IsHex ':' := by unfold IsHex; decide

theorem not_isHex_dot : ¬IsHex '.' := by unfold IsHex; decide

theorem not_isHex_percent : ¬IsHex '%' := by unfold IsHex; decide

theorem IsGroup.notMem (h : IsGroup s) {c : Char} (hc : ¬IsHex c) : c ∉ s :=
  fun hmem => hc (h.isHex c hmem)

theorem IsGroup.ne_nil (h : IsGroup s) : s ≠ [] :=
  List.ne_nil_of_length_pos h.length_pos

theorem isDigit_or_dot_of_isQuad (h : IsQuad s) : ∀ c ∈ s, c.isDigit ∨ c = '.' := by
  obtain ⟨ns, hlength, -, rfl⟩ := h
  cases ns with
  | nil => cases hlength
  | cons n ns =>
    intro c hc
    rw [dotted_cons, List.mem_append, List.mem_flatMap] at hc
    rcases hc with hc | ⟨m, -, hc⟩
    · exact .inl ((writesDigits_decimal n).isDigit c hc)
    · rcases List.mem_cons.1 hc with rfl | hc
      · exact .inr rfl
      · exact .inl ((writesDigits_decimal m).isDigit c hc)

theorem dot_mem_of_isQuad (h : IsQuad s) : '.' ∈ s := by
  obtain ⟨ns, hlength, -, rfl⟩ := h
  cases ns with
  | nil => cases hlength
  | cons n ns =>
    cases ns with
    | nil => cases hlength
    | cons m ns => simp [dotted_cons]

theorem ne_nil_of_isQuad (h : IsQuad s) : s ≠ [] := List.ne_nil_of_mem (dot_mem_of_isQuad h)

/-- A quad is no group. -/
theorem group?_of_isQuad (h : IsQuad s) : group? s = none := by
  rw [← Option.not_isSome_iff_eq_none, isSome_group?_iff]
  exact fun hgroup => hgroup.notMem not_isHex_dot (dot_mem_of_isQuad h)

theorem colon_notMem_of_isQuad (h : IsQuad s) : ':' ∉ s :=
  colon_notMem_of_isIpv4 (isIpv4_iff_isQuad.2 h)

theorem joined_append_singleton {gs : List (List Char)} (hne : gs ≠ []) (g : List Char) :
    joined (gs ++ [g]) = joined gs ++ ':' :: g := by
  cases gs with
  | nil => exact absurd rfl hne
  | cons h gs => simp [joined, intercalate_cons_eq]

theorem joined_eq_nil_iff {gs : List (List Char)} (hgs : ∀ g ∈ gs, g ≠ []) :
    joined gs = [] ↔ gs = [] := by
  cases gs with
  | nil => simp [joined]
  | cons g gs => simp [joined, intercalate_cons_eq, hgs g (by simp)]

/-! What the readers make of lists of groups. -/

/-- What the last piece of a list stands for. -/
def last? (t : List Char) : Option (List Nat) :=
  match group? t with
  | some n => some [n]
  | none =>
    match quad? t with
    | some [a, b, c, d] => some [a * 256 + b, c * 256 + d]
    | _ => none

theorem exists_last?_iff {t : List Char} {k : Nat} :
    (∃ ns, last? t = some ns ∧ ns.length = k) ↔ IsGroup t ∧ k = 1 ∨ IsQuad t ∧ k = 2 := by
  by_cases hgroup : IsGroup t
  · obtain ⟨n, hn⟩ := Option.isSome_iff_exists.1 (isSome_group?_iff.2 hgroup)
    have hquad : ¬IsQuad t := fun hquad => by simp [group?_of_isQuad hquad] at hn
    simp [last?, hn, hgroup, hquad, eq_comm]
  · have hnone : group? t = none := by
      rwa [← Option.not_isSome_iff_eq_none, isSome_group?_iff]
    cases hquad : quad? t with
    | none =>
      have hnot : ¬IsQuad t := by
        rw [← isIpv4_iff_isQuad, isIpv4, hquad]
        simp
      simp [last?, hnone, hquad, hgroup, hnot]
    | some ns =>
      have hquad' : IsQuad t := ⟨ns, quad?_eq_some_iff.1 hquad⟩
      obtain ⟨a, b, c, d, rfl⟩ := List.length_eq_four.1 (quad?_eq_some_iff.1 hquad).1
      simp [last?, hnone, hquad, hgroup, hquad', eq_comm]

theorem groupList?_joined {gs : List (List Char)} {t : List Char}
    (h : ∀ g ∈ gs ++ [t], ':' ∉ g) :
    groupList? (joined (gs ++ [t])) =
      (gs.mapM group?).bind fun front => (last? t).map (front ++ ·) := by
  have hsplit : (joined (gs ++ [t])).splitOn ':' = gs ++ [t] :=
    List.splitOn_intercalate ':' h (by simp)
  simp only [groupList?, hsplit, List.getLast?_concat, Option.getD_some, List.dropLast_concat]
  rfl

theorem plainGroups?_joined {gs : List (List Char)} (hne : gs ≠ []) (h : ∀ g ∈ gs, ':' ∉ g) :
    plainGroups? (joined gs) = gs.mapM group? := by
  rw [plainGroups?, joined, List.splitOn_intercalate ':' h hne]

/-- Every text is its pieces between colons, of which there is a last one. -/
theorem exists_eq_joined (s : List Char) :
    ∃ gs t, s = joined (gs ++ [t]) ∧ ∀ g ∈ gs ++ [t], ':' ∉ g := by
  have hne := List.splitOn_ne_nil ':' s
  refine ⟨(s.splitOn ':').dropLast, (s.splitOn ':').getLast hne, ?_, ?_⟩
  · rw [List.dropLast_append_getLast, joined, List.intercalate_splitOn]
  · rw [List.dropLast_append_getLast]
    intro g hg hcolon
    simpa using not_of_mem_splitOnP hg ':' hcolon

theorem exists_mapM_group?_iff {gs : List (List Char)} :
    (∃ ns, gs.mapM group? = some ns ∧ ns.length = n) ↔ (∀ g ∈ gs, IsGroup g) ∧ gs.length = n := by
  constructor
  · rintro ⟨ns, hns, rfl⟩
    have hsome : (gs.mapM group?).isSome := by simp [hns]
    exact ⟨fun g hg => isSome_group?_iff.1 (isSome_mapM_iff.1 hsome g hg), (length_of_mapM hns).symm⟩
  · rintro ⟨hgs, rfl⟩
    obtain ⟨ns, hns⟩ := Option.isSome_iff_exists.1
      (isSome_mapM_iff.2 fun g hg => isSome_group?_iff.2 (hgs g hg))
    exact ⟨ns, hns, length_of_mapM hns⟩

theorem exists_groupList?_joined_iff {gs : List (List Char)} {t : List Char}
    (h : ∀ g ∈ gs ++ [t], ':' ∉ g) :
    (∃ ns, groupList? (joined (gs ++ [t])) = some ns ∧ ns.length = n) ↔
      (∀ g ∈ gs, IsGroup g) ∧ (IsGroup t ∧ n = gs.length + 1 ∨ IsQuad t ∧ n = gs.length + 2) := by
  simp only [groupList?_joined h, Option.bind_eq_some_iff, Option.map_eq_some_iff]
  constructor
  · rintro ⟨_, ⟨front, hfront, back, hback, rfl⟩, rfl⟩
    obtain ⟨hgs, hlength⟩ := exists_mapM_group?_iff.1 ⟨front, hfront, rfl⟩
    have hlast := exists_last?_iff.1 ⟨back, hback, rfl⟩
    rw [List.length_append]
    refine ⟨hgs, hlast.imp (fun hg => ⟨hg.1, ?_⟩) fun hq => ⟨hq.1, ?_⟩⟩ <;> omega
  · rintro ⟨hgs, hlast⟩
    obtain ⟨front, hfront, hlength⟩ := exists_mapM_group?_iff.2 ⟨hgs, rfl⟩
    obtain ⟨back, hback, hn⟩ : ∃ back, last? t = some back ∧ back.length = n - gs.length :=
      exists_last?_iff.2 (hlast.imp (fun hg => ⟨hg.1, by omega⟩) fun hq => ⟨hq.1, by omega⟩)
    refine ⟨_, ⟨front, hfront, back, hback, rfl⟩, ?_⟩
    rw [List.length_append]
    omega

/-- A list of groups is read as the units that it has, if it has any. -/
theorem exists_groupList?_iff :
    (∃ ns, groupList? s = some ns ∧ ns.length = n) ↔ Units s n ∧ 0 < n := by
  constructor
  · obtain ⟨gs, t, rfl, hcolon⟩ := exists_eq_joined s
    rw [exists_groupList?_joined_iff hcolon]
    rintro ⟨hgs, ⟨ht, rfl⟩ | ⟨ht, rfl⟩⟩
    · refine ⟨?_, Nat.succ_pos _⟩
      have hall : ∀ g ∈ gs ++ [t], IsGroup g := by simpa [or_imp, forall_and] using ⟨hgs, ht⟩
      simpa using Units.groups hall
    · exact ⟨.quad hgs ht, by omega⟩
  · rintro ⟨h, hn⟩
    cases h with
    | @groups gs hgs =>
      obtain ⟨front, t, rfl⟩ : ∃ front t, gs = front ++ [t] :=
        ⟨_, _, (List.dropLast_append_getLast (List.ne_nil_of_length_pos hn)).symm⟩
      rw [exists_groupList?_joined_iff fun g hg => (hgs g hg).notMem not_isHex_colon]
      refine ⟨fun g hg => hgs g (by simp [hg]), .inl ⟨hgs t (by simp), by simp⟩⟩
    | @quad gs q hgs hq =>
      have hcolon : ∀ g ∈ gs ++ [q], ':' ∉ g := by
        simp only [List.mem_append, List.mem_singleton]
        rintro g (hg | rfl)
        · exact (hgs g hg).notMem not_isHex_colon
        · exact colon_notMem_of_isQuad hq
      exact (exists_groupList?_joined_iff hcolon).2 ⟨hgs, .inr ⟨hq, rfl⟩⟩

theorem exists_plainGroups?_iff :
    (∃ ns, plainGroups? s = some ns ∧ ns.length = n) ↔
      (∃ gs, s = joined gs ∧ (∀ g ∈ gs, IsGroup g) ∧ gs.length = n) ∧ 0 < n := by
  constructor
  · obtain ⟨gs, t, rfl, hcolon⟩ := exists_eq_joined s
    rw [plainGroups?_joined (by simp) hcolon, exists_mapM_group?_iff]
    rintro ⟨hgs, rfl⟩
    exact ⟨⟨_, rfl, hgs, rfl⟩, by simp⟩
  · rintro ⟨⟨gs, rfl, hgs, rfl⟩, hn⟩
    rw [plainGroups?_joined (List.ne_nil_of_length_pos hn)
      fun g hg => (hgs g hg).notMem not_isHex_colon, exists_mapM_group?_iff]
    exact ⟨hgs, rfl⟩

/-- A reader that is exact for texts of one unit or more is exact where nothing may stand
for none. -/
theorem exists_orEmpty_iff {read : List Char → Option (List Nat)} {P : List Char → Nat → Prop}
    (hread : ∀ n, (∃ ns, read s = some ns ∧ ns.length = n) ↔ P s n ∧ 0 < n)
    (hnil : P [] 0) (hzero : ∀ n, P s n → (s = [] ↔ n = 0)) :
    (∃ ns, orEmpty read s = some ns ∧ ns.length = n) ↔ P s n := by
  by_cases hs : s = []
  · subst hs
    constructor
    · rintro ⟨ns, hns, rfl⟩
      obtain rfl := Option.some.inj hns
      exact hnil
    · intro h
      exact ⟨[], rfl, ((hzero n h).1 rfl).symm⟩
  · have hnot : s.isEmpty = false := by simpa using hs
    rw [orEmpty, hnot, if_neg Bool.false_ne_true, hread]
    exact ⟨And.left, fun h => ⟨h, Nat.pos_of_ne_zero (mt (hzero n h).2 hs)⟩⟩

theorem Units.eq_nil_iff (h : Units s n) : s = [] ↔ n = 0 := by
  cases h with
  | groups hgs => rw [List.length_eq_zero_iff, joined_eq_nil_iff fun g hg => (hgs g hg).ne_nil]
  | quad hgs hq =>
    have hne : ∀ g ∈ _ ++ [_], g ≠ [] := List.forall_mem_append.2
      ⟨fun g hg => (hgs g hg).ne_nil, List.forall_mem_singleton.2 (ne_nil_of_isQuad hq)⟩
    rw [joined_eq_nil_iff hne]
    simp

theorem units_nil : Units [] 0 := @Units.groups [] (by simp)

theorem exists_back_iff :
    (∃ ns, orEmpty groupList? s = some ns ∧ ns.length = n) ↔ Units s n :=
  exists_orEmpty_iff (fun _ => exists_groupList?_iff) units_nil fun _ h => h.eq_nil_iff

theorem exists_front_iff :
    (∃ ns, orEmpty plainGroups? s = some ns ∧ ns.length = n) ↔
      ∃ gs, s = joined gs ∧ (∀ g ∈ gs, IsGroup g) ∧ gs.length = n := by
  refine exists_orEmpty_iff
    (P := fun s n => ∃ gs, s = joined gs ∧ (∀ g ∈ gs, IsGroup g) ∧ gs.length = n)
    (fun _ => exists_plainGroups?_iff) ⟨[], rfl, by simp, rfl⟩ ?_
  rintro _ ⟨gs, rfl, hgs, rfl⟩
  exact (Units.groups hgs).eq_nil_iff

/-! The first double colon. -/

theorem cutCompressed_cons {c : Char} {t : List Char} (h : c = ':' → t.head? ≠ some ':') :
    cutCompressed (c :: t) = (cutCompressed t).map fun p => (c :: p.1, p.2) := by
  rw [cutCompressed]
  rintro r rfl rfl
  exact h rfl rfl

theorem cutCompressed_append {a : List Char} (ha : ':' ∉ a) (t : List Char) :
    cutCompressed (a ++ t) = (cutCompressed t).map fun p => (a ++ p.1, p.2) := by
  induction a with
  | nil => simp
  | cons c a ih =>
    rw [List.mem_cons, not_or] at ha
    rw [List.cons_append, cutCompressed_cons fun hc => absurd hc.symm ha.1, ih ha.2,
      Option.map_map]
    rfl

/-- There is no double colon between pieces that are not empty. -/
theorem cutCompressed_joined {gs : List (List Char)} (hgs : ∀ g ∈ gs, g ≠ [] ∧ ':' ∉ g)
    (t : List Char) :
    cutCompressed (joined gs ++ t) = (cutCompressed t).map fun p => (joined gs ++ p.1, p.2) := by
  induction gs with
  | nil => simp [joined]
  | cons g gs ih =>
    rw [List.forall_mem_cons] at hgs
    cases gs with
    | nil => simpa [joined] using cutCompressed_append hgs.1.2 t
    | cons h gs =>
      have hsplit : joined (g :: h :: gs) = g ++ ':' :: joined (h :: gs) := by
        simp [joined, intercalate_cons_eq]
      have hhead : (joined (h :: gs) ++ t).head? ≠ some ':' := by
        obtain ⟨c, r, rfl⟩ := List.exists_cons_of_ne_nil (hgs.2 h (by simp)).1
        have hc := (hgs.2 _ (List.mem_cons_self ..)).2
        rw [List.mem_cons, not_or] at hc
        simpa [joined, intercalate_cons_eq] using Ne.symm hc.1
      rw [hsplit, List.append_assoc, List.cons_append, cutCompressed_append hgs.1.2,
        cutCompressed_cons fun _ => hhead, ih hgs.2, Option.map_map, Option.map_map]
      simp [Function.comp_def]

theorem eq_append_of_cutCompressed {a b : List Char} (h : cutCompressed s = some (a, b)) :
    s = a ++ ':' :: ':' :: b := by
  fun_induction cutCompressed s generalizing a with
  | case1 r =>
    obtain ⟨rfl, rfl⟩ := Prod.mk.inj (Option.some.inj h)
    rfl
  | case2 c r _ ih =>
    obtain ⟨⟨x, y⟩, hr, hp⟩ := Option.map_eq_some_iff.1 h
    obtain ⟨rfl, rfl⟩ := Prod.mk.inj hp
    rw [ih hr]
    rfl
  | case3 => cases h

theorem IsGroup.piece (h : IsGroup s) : s ≠ [] ∧ ':' ∉ s := ⟨h.ne_nil, h.notMem not_isHex_colon⟩

theorem cutCompressed_groups {gs : List (List Char)} (hgs : ∀ g ∈ gs, IsGroup g)
    (rest : List Char) :
    cutCompressed (joined gs ++ ':' :: ':' :: rest) = some (joined gs, rest) := by
  rw [cutCompressed_joined fun g hg => (hgs g hg).piece]
  simp [cutCompressed]

theorem Units.cutCompressed_eq_none (h : Units s n) : cutCompressed s = none := by
  cases h with
  | groups hgs =>
    have hcut := cutCompressed_joined (fun g hg => (hgs g hg).piece) []
    simpa [cutCompressed] using hcut
  | quad hgs hq =>
    have hpiece : ∀ g ∈ _ ++ [_], g ≠ [] ∧ ':' ∉ g := List.forall_mem_append.2
      ⟨fun g hg => (hgs g hg).piece,
        List.forall_mem_singleton.2 ⟨ne_nil_of_isQuad hq, colon_notMem_of_isQuad hq⟩⟩
    have hcut := cutCompressed_joined hpiece []
    simpa [cutCompressed] using hcut

/-- Eight units, or at most seven around a double colon. -/
theorem spelled_iff :
    Spelled s ↔ Units s 8 ∨ ∃ gs rest n, s = joined gs ++ ':' :: ':' :: rest ∧
      (∀ g ∈ gs, IsGroup g) ∧ Units rest n ∧ gs.length + n ≤ 7 := by
  have hne {gs : List (List Char)} (hlength : gs.length = 6) : gs ≠ [] := by
    rintro rfl
    cases hlength
  constructor
  · intro h
    cases h with
    | whole hlength hgs => exact .inl (hlength ▸ .groups hgs)
    | embedded hlength hgs hq =>
      have hunits := Units.quad hgs hq
      rw [hlength, joined_append_singleton (hne hlength)] at hunits
      exact .inl hunits
    | compressed hgs hrest hn => exact .inr ⟨_, _, _, rfl, hgs, hrest, hn⟩
  · rintro (h | ⟨gs, rest, n, rfl, hgs, hrest, hn⟩)
    · generalize height : 8 = n at h
      cases h with
      | groups hgs => exact .whole height.symm hgs
      | @quad gs q hgs hq =>
        have hlength : gs.length = 6 := by omega
        rw [joined_append_singleton (hne hlength)]
        exact .embedded hlength hgs hq
    · exact .compressed hgs hrest hn

theorem isSome_groups?_iff : (groups? s).isSome ↔ Spelled s := by
  cases hcut : cutCompressed s with
  | none =>
    have hread : (groups? s).isSome ↔ ∃ ns, groupList? s = some ns ∧ ns.length = 8 := by
      simp [groups?, hcut, Option.any_eq_true]
    rw [hread, exists_groupList?_iff, spelled_iff]
    constructor
    · exact fun h => .inl h.1
    · rintro (h | ⟨gs, rest, n, rfl, hgs, -, -⟩)
      · exact ⟨h, by decide⟩
      · rw [cutCompressed_groups hgs] at hcut
        cases hcut
  | some p =>
    obtain ⟨a, b⟩ := p
    obtain rfl := eq_append_of_cutCompressed hcut
    have hread : (groups? (a ++ ':' :: ':' :: b)).isSome ↔
        ∃ front, orEmpty plainGroups? a = some front ∧ ∃ back, orEmpty groupList? b = some back ∧
          front.length + back.length ≤ 7 := by
      simp only [groups?, hcut, Option.isSome_iff_exists, Option.bind_eq_some_iff]
      simp
    rw [hread, spelled_iff]
    constructor
    · rintro ⟨front, hfront, back, hback, hle⟩
      obtain ⟨gs, rfl, hgs, hlength⟩ := exists_front_iff.1 ⟨front, hfront, rfl⟩
      have hunits := exists_back_iff.1 ⟨back, hback, rfl⟩
      exact .inr ⟨gs, b, _, rfl, hgs, hunits, by omega⟩
    · rintro (h | ⟨gs, rest, n, heq, hgs, hrest, hn⟩)
      · rw [h.cutCompressed_eq_none] at hcut
        cases hcut
      · rw [heq, cutCompressed_groups hgs] at hcut
        obtain ⟨rfl, rfl⟩ := Prod.mk.inj (Option.some.inj hcut)
        obtain ⟨front, hfront, hlength⟩ := exists_front_iff.2 ⟨gs, rfl, hgs, rfl⟩
        obtain ⟨back, hback, rfl⟩ := exists_back_iff.2 hrest
        exact ⟨front, hfront, back, hback, by omega⟩

/-! Zones, and the loose form. -/

theorem notMem_joined {c : Char} (hc : c ≠ ':') {gs : List (List Char)} (h : ∀ g ∈ gs, c ∉ g) :
    c ∉ joined gs := by
  cases gs with
  | nil => simp [joined]
  | cons g gs =>
    rw [List.forall_mem_cons] at h
    simpa [joined, intercalate_cons_eq, hc, h.1] using h.2

theorem percent_notMem_of_isGroup {gs : List (List Char)} (hgs : ∀ g ∈ gs, IsGroup g) :
    ∀ g ∈ gs, '%' ∉ g := fun g hg => (hgs g hg).notMem not_isHex_percent

theorem Units.percent_notMem (h : Units s n) : '%' ∉ s := by
  cases h with
  | groups hgs => exact notMem_joined (by decide) (percent_notMem_of_isGroup hgs)
  | quad hgs hq =>
    have hquad : '%' ∉ _ := fun h => by simpa using isDigit_or_dot_of_isQuad hq '%' h
    exact notMem_joined (by decide) (List.forall_mem_append.2
      ⟨percent_notMem_of_isGroup hgs, List.forall_mem_singleton.2 hquad⟩)

theorem Spelled.percent_notMem (h : Spelled s) : '%' ∉ s := by
  obtain h | ⟨gs, rest, n, rfl, hgs, hrest, -⟩ := spelled_iff.1 h
  · exact h.percent_notMem
  · simp [notMem_joined (c := '%') (by decide) (percent_notMem_of_isGroup hgs),
      hrest.percent_notMem]

theorem isScoped_iff : isScoped s ↔ Scoped s := by
  constructor
  · intro h
    rw [isScoped] at h
    cases hcut : cut '%' s with
    | none => exact .plain (isSome_groups?_iff.1 (by simpa [hcut] using h))
    | some p =>
      obtain ⟨rfl, -⟩ := eq_append_of_cut hcut
      simp only [hcut, Bool.and_eq_true, Bool.not_eq_true', List.isEmpty_eq_false_iff,
        List.all_eq_true] at h
      exact .zoned (isSome_groups?_iff.1 h.1.1) h.1.2 h.2
  · intro h
    cases h with
    | plain h =>
      rw [isScoped, cut_eq_none_iff.2 h.percent_notMem]
      exact isSome_groups?_iff.2 h
    | zoned h hne hzone =>
      rw [isScoped, cut_append h.percent_notMem]
      simpa [isSome_groups?_iff.2 h, hne] using hzone

theorem loose_cons_iff {c : Char} :
    Loose (c :: s) ↔ (c = ':' ∧ ∃ d r, s = ':' :: d :: r ∧ d.isDigit) ∨ Loose s := by
  constructor
  · rintro ⟨before, d, after, heq, hd⟩
    cases before with
    | nil =>
      obtain ⟨rfl, rfl⟩ := List.cons.inj heq
      exact .inl ⟨rfl, d, after, rfl, hd⟩
    | cons b before =>
      obtain ⟨rfl, rfl⟩ := List.cons.inj heq
      exact .inr ⟨before, d, after, rfl, hd⟩
  · rintro (⟨rfl, d, r, rfl, hd⟩ | ⟨before, d, after, rfl, hd⟩)
    · exact ⟨[], d, r, rfl, hd⟩
    · exact ⟨c :: before, d, after, rfl, hd⟩

theorem looksCompressed_iff : looksCompressed s ↔ Loose s := by
  fun_induction looksCompressed s with
  | case1 d r ih => simp [loose_cons_iff (c := ':') (s := ':' :: d :: r), ih]
  | case2 c r hne ih =>
    rw [loose_cons_iff, ih, iff_or_self]
    rintro ⟨rfl, d, t, rfl, -⟩
    exact absurd rfl (hne d t rfl)
  | case3 => simp [Loose]

end ZoneAudit.Address
