import Mathlib.Tactic.IntervalCases
import ZoneAudit.Proofs.AddressGroups

/-!
The pattern by which addresses are also known. It has one alternative for each number of groups in
front of the double colon, with its own bounds on what follows: together they are the addresses of
eight units and those of at most seven around a double colon.
-/

namespace ZoneAudit.Address
open Text
open scoped Computability

variable {s : List Char} {n : Nat}

/-! The pattern of addresses. -/

def colon : Language Char := {[':']}

def hexDigit : Language Char := {s | ∃ c, IsHex c ∧ s = [c]}

/-- As many repetitions as the bounds allow. -/
def repeated (lo hi : Nat) (l : Language Char) : Language Char :=
  {s | ∃ k, (lo ≤ k ∧ k ≤ hi) ∧ s ∈ l ^ k}

def group : Language Char := repeated 1 4 hexDigit

/-- One alternative for each number of groups before the double colon, from seven to none; the first
two also have the addresses that are written out. -/
def addressPattern : Language Char :=
  (group * colon) ^ 7 * (group + colon) +
  (group * colon) ^ 6 * (quadPattern + colon * group + colon) +
  (group * colon) ^ 5 * (colon * quadPattern + repeated 1 2 (colon * group) + colon) +
  (group * colon) ^ 4 * (repeated 0 1 (colon * group) * colon * quadPattern +
    repeated 1 3 (colon * group) + colon) +
  (group * colon) ^ 3 * (repeated 0 2 (colon * group) * colon * quadPattern +
    repeated 1 4 (colon * group) + colon) +
  (group * colon) ^ 2 * (repeated 0 3 (colon * group) * colon * quadPattern +
    repeated 1 5 (colon * group) + colon) +
  (group * colon) ^ 1 * (repeated 0 4 (colon * group) * colon * quadPattern +
    repeated 1 6 (colon * group) + colon) +
  colon * (repeated 0 5 (colon * group) * colon * quadPattern +
    repeated 1 7 (colon * group) + colon)

theorem mem_repeated_iff {ι : Type} {l : Language Char} {P : ι → Prop} {write : ι → List Char}
    (h : ∀ s, s ∈ l ↔ ∃ i, P i ∧ s = write i) {lo hi : Nat} :
    s ∈ repeated lo hi l ↔ ∃ is : List ι, (lo ≤ is.length ∧ is.length ≤ hi) ∧ (∀ i ∈ is, P i) ∧
      s = is.flatMap write := by
  have hrepeated : s ∈ repeated lo hi l ↔ ∃ k, (lo ≤ k ∧ k ≤ hi) ∧ s ∈ l ^ k := Iff.rfl
  simp only [hrepeated, mem_pow_iff h]
  constructor
  · rintro ⟨_, hk, is, rfl, his, rfl⟩
    exact ⟨is, hk, his, rfl⟩
  · rintro ⟨is, hk, his, rfl⟩
    exact ⟨_, hk, is, rfl, his, rfl⟩

theorem mem_group_iff : s ∈ group ↔ IsGroup s := by
  have hdigit (t : List Char) : t ∈ hexDigit ↔ ∃ c, IsHex c ∧ t = [c] := Iff.rfl
  rw [group, mem_repeated_iff hdigit]
  constructor
  · rintro ⟨cs, hlength, hcs, rfl⟩
    rw [List.flatMap_singleton']
    exact ⟨hlength.1, hlength.2, hcs⟩
  · intro h
    exact ⟨s, ⟨h.length_pos, h.length_le⟩, h.isHex, (List.flatMap_singleton' s).symm⟩

theorem mem_colon_mul_iff {l : Language Char} : s ∈ colon * l ↔ ∃ t ∈ l, s = ':' :: t :=
  mem_singleton_mul_iff

theorem mem_colon_mul_group_iff (s : List Char) :
    s ∈ colon * group ↔ ∃ g, IsGroup g ∧ s = ':' :: g := by
  simp only [mem_colon_mul_iff, mem_group_iff]

theorem mem_group_mul_colon_iff (s : List Char) :
    s ∈ group * colon ↔ ∃ g, IsGroup g ∧ s = g ++ [':'] := by
  simp only [colon, mem_mul_singleton_iff, mem_group_iff]

theorem flatMap_cons_colon {gs : List (List Char)} (hne : gs ≠ []) :
    gs.flatMap (':' :: ·) = ':' :: joined gs := by
  cases gs with
  | nil => exact absurd rfl hne
  | cons g gs => simp [joined, intercalate_cons_eq]

theorem flatMap_append_colon (gs : List (List Char)) (t : List Char) :
    gs.flatMap (· ++ [':']) ++ t = joined (gs ++ [t]) :=
  (intercalate_append_singleton ':' gs t).symm

/-- Groups with a colon after each of them, and what follows. -/
theorem mem_front_mul_iff {l : Language Char} {k : Nat} (hk : 0 < k) :
    s ∈ (group * colon) ^ k * l ↔ ∃ gs t, gs.length = k ∧ (∀ g ∈ gs, IsGroup g) ∧ t ∈ l ∧
      s = joined gs ++ ':' :: t := by
  have hjoin {gs : List (List Char)} (hlength : gs.length = k) (t : List Char) :
      gs.flatMap (· ++ [':']) ++ t = joined gs ++ ':' :: t := by
    rw [flatMap_append_colon, joined_append_singleton (List.ne_nil_of_length_pos (by omega))]
  simp only [Language.mem_mul, mem_pow_iff mem_group_mul_colon_iff]
  constructor
  · rintro ⟨_, ⟨gs, hlength, hgs, rfl⟩, t, ht, rfl⟩
    exact ⟨gs, t, hlength, hgs, ht, hjoin hlength t⟩
  · rintro ⟨gs, t, hlength, hgs, ht, rfl⟩
    exact ⟨_, ⟨gs, hlength, hgs, rfl⟩, t, ht, hjoin hlength t⟩

/-- What follows the groups of a compressed address: a second colon, and units up to a bound. -/
theorem mem_rest_iff {a b : Nat} (hb : b = a + 2) :
    s ∈ repeated 0 a (colon * group) * colon * quadPattern + repeated 1 b (colon * group) + colon ↔
      ∃ rest n, Units rest n ∧ n ≤ b ∧ s = ':' :: rest := by
  rw [Language.mem_add, Language.mem_add, mul_assoc, Language.mem_mul]
  simp only [mem_repeated_iff mem_colon_mul_group_iff, mem_colon_mul_iff, mem_quadPattern_iff]
  have hquad (gs : List (List Char)) (q : List Char) :
      gs.flatMap (':' :: ·) ++ ':' :: q = ':' :: joined (gs ++ [q]) := by
    rw [← flatMap_cons_colon (by simp)]
    simp
  constructor
  · rintro ((⟨_, ⟨gs, hlength, hgs, rfl⟩, _, ⟨q, hq, rfl⟩, rfl⟩ | ⟨gs, hlength, hgs, rfl⟩) | rfl)
    · exact ⟨_, _, .quad hgs hq, by omega, hquad gs q⟩
    · exact ⟨_, _, .groups hgs, hlength.2,
        flatMap_cons_colon (List.ne_nil_of_length_pos hlength.1)⟩
    · exact ⟨[], 0, units_nil, Nat.zero_le b, rfl⟩
  · rintro ⟨_, _, @⟨gs, hgs⟩ | @⟨gs, q, hgs, hq⟩, hn, rfl⟩
    · by_cases hne : gs = []
      · subst hne
        exact .inr rfl
      · exact .inl (.inr ⟨gs, ⟨List.length_pos_iff.2 hne, hn⟩, hgs, (flatMap_cons_colon hne).symm⟩)
    · exact .inl (.inl ⟨_, ⟨gs, ⟨Nat.zero_le _, by omega⟩, hgs, rfl⟩, _, ⟨q, hq, rfl⟩, hquad gs q⟩)

theorem repeated_zero (l : Language Char) : repeated 0 0 l = 1 := by
  ext s
  constructor
  · rintro ⟨k, hk, hs⟩
    obtain rfl : k = 0 := by omega
    simpa using hs
  · intro hs
    exact ⟨0, by decide, by simpa using hs⟩

/-- An address with so many groups before the double colon. -/
def Around (k : Nat) (s : List Char) : Prop :=
  ∃ gs rest n, gs.length = k ∧ (∀ g ∈ gs, IsGroup g) ∧ Units rest n ∧ k + n ≤ 7 ∧
    s = joined gs ++ ':' :: ':' :: rest

/-- One group or more before the double colon. -/
theorem mem_front_mul_rest_iff {k a b : Nat} (hk : 0 < k) (hb : b = a + 2) (h : k + b = 7) :
    s ∈ (group * colon) ^ k * (repeated 0 a (colon * group) * colon * quadPattern +
        repeated 1 b (colon * group) + colon) ↔ Around k s := by
  simp only [mem_front_mul_iff hk, mem_rest_iff hb]
  constructor
  · rintro ⟨gs, _, hlength, hgs, ⟨rest, n, hrest, hn, rfl⟩, rfl⟩
    exact ⟨gs, rest, n, hlength, hgs, hrest, by omega, rfl⟩
  · rintro ⟨gs, rest, n, hlength, hgs, hrest, hn, rfl⟩
    exact ⟨gs, _, hlength, hgs, ⟨rest, n, hrest, by omega, rfl⟩, rfl⟩

/-- No group before the double colon. -/
theorem mem_colon_mul_rest_iff :
    s ∈ colon * (repeated 0 5 (colon * group) * colon * quadPattern +
        repeated 1 7 (colon * group) + colon) ↔ Around 0 s := by
  simp only [mem_colon_mul_iff, mem_rest_iff (show 7 = 5 + 2 from rfl)]
  constructor
  · rintro ⟨_, ⟨rest, n, hrest, hn, rfl⟩, rfl⟩
    exact ⟨[], rest, n, rfl, by simp, hrest, by omega, rfl⟩
  · rintro ⟨gs, rest, n, hlength, -, hrest, hn, rfl⟩
    rw [List.length_eq_zero_iff] at hlength
    subst hlength
    exact ⟨_, ⟨rest, n, hrest, by omega, rfl⟩, rfl⟩

theorem units_of_isGroup (h : IsGroup s) : Units s 1 := by
  simpa [joined] using @Units.groups [s] (by simpa using h)

theorem Units.eq_nil_or_isGroup (h : Units s n) (hn : n ≤ 1) : s = [] ∨ IsGroup s := by
  cases h with
  | @groups gs hgs =>
    match gs, hgs, hn with
    | [], _, _ => exact .inl rfl
    | [g], hgs, _ => exact .inr (by simpa [joined] using hgs)
  | quad => omega

/-- Six groups: a dotted quad, one group or nothing may follow. -/
theorem mem_six_iff :
    s ∈ (group * colon) ^ 6 * (quadPattern + colon * group + colon) ↔
      (∃ gs q, gs.length = 6 ∧ (∀ g ∈ gs, IsGroup g) ∧ IsQuad q ∧ s = joined gs ++ ':' :: q) ∨
        Around 6 s := by
  simp only [mem_front_mul_iff (show 0 < 6 by decide), Language.mem_add, mem_quadPattern_iff,
    mem_colon_mul_group_iff]
  constructor
  · rintro ⟨gs, _, hlength, hgs, (hq | ⟨g, hg, rfl⟩) | rfl, rfl⟩
    · exact .inl ⟨gs, _, hlength, hgs, hq, rfl⟩
    · exact .inr ⟨gs, g, 1, hlength, hgs, units_of_isGroup hg, by decide, rfl⟩
    · exact .inr ⟨gs, [], 0, hlength, hgs, units_nil, by decide, rfl⟩
  · rintro (⟨gs, q, hlength, hgs, hq, rfl⟩ | ⟨gs, rest, n, hlength, hgs, hrest, hn, rfl⟩)
    · exact ⟨gs, q, hlength, hgs, .inl (.inl hq), rfl⟩
    · obtain rfl | hgroup := hrest.eq_nil_or_isGroup (by omega)
      · exact ⟨gs, _, hlength, hgs, .inr rfl, rfl⟩
      · exact ⟨gs, _, hlength, hgs, .inl (.inr ⟨rest, hgroup, rfl⟩), rfl⟩

/-- Seven groups: an eighth or nothing may follow. -/
theorem mem_seven_iff :
    s ∈ (group * colon) ^ 7 * (group + colon) ↔
      (∃ gs, gs.length = 8 ∧ (∀ g ∈ gs, IsGroup g) ∧ s = joined gs) ∨ Around 7 s := by
  simp only [mem_front_mul_iff (show 0 < 7 by decide), Language.mem_add, mem_group_iff]
  constructor
  · rintro ⟨gs, t, hlength, hgs, ht | rfl, rfl⟩
    · refine .inl ⟨gs ++ [t], by simp [hlength],
        List.forall_mem_append.2 ⟨hgs, List.forall_mem_singleton.2 ht⟩, ?_⟩
      rw [joined_append_singleton (List.ne_nil_of_length_pos (by omega))]
    · exact .inr ⟨gs, [], 0, hlength, hgs, units_nil, by decide, rfl⟩
  · rintro (⟨gs, hlength, hgs, rfl⟩ | ⟨gs, rest, n, hlength, hgs, hrest, hn, rfl⟩)
    · obtain ⟨front, t, rfl⟩ : ∃ front t, gs = front ++ [t] :=
        ⟨_, _, (List.dropLast_append_getLast (List.ne_nil_of_length_pos (by omega))).symm⟩
      have hfront : front.length = 7 := by simpa using hlength
      rw [List.forall_mem_append] at hgs
      refine ⟨front, t, hfront, hgs.1, .inl (hgs.2 t (by simp)), ?_⟩
      rw [joined_append_singleton (List.ne_nil_of_length_pos (by omega))]
    · obtain rfl := hrest.eq_nil_iff.2 (by omega)
      exact ⟨gs, _, hlength, hgs, .inr rfl, rfl⟩

theorem spelled_iff_around :
    Spelled s ↔ (∃ gs, gs.length = 8 ∧ (∀ g ∈ gs, IsGroup g) ∧ s = joined gs) ∨
      (∃ gs q, gs.length = 6 ∧ (∀ g ∈ gs, IsGroup g) ∧ IsQuad q ∧ s = joined gs ++ ':' :: q) ∨
        ∃ k ≤ 7, Around k s := by
  constructor
  · intro h
    cases h with
    | whole hlength hgs => exact .inl ⟨_, hlength, hgs, rfl⟩
    | embedded hlength hgs hq => exact .inr (.inl ⟨_, _, hlength, hgs, hq, rfl⟩)
    | compressed hgs hrest hn =>
      exact .inr (.inr ⟨_, by omega, _, _, _, rfl, hgs, hrest, hn, rfl⟩)
  · rintro (⟨gs, hlength, hgs, rfl⟩ | ⟨gs, q, hlength, hgs, hq, rfl⟩ |
      ⟨_, -, gs, rest, n, rfl, hgs, hrest, hn, rfl⟩)
    · exact .whole hlength hgs
    · exact .embedded hlength hgs hq
    · exact .compressed hgs hrest hn

/-- The alternatives leave out no address and add none. -/
theorem mem_addressPattern_iff : s ∈ addressPattern ↔ Spelled s := by
  have h5 : s ∈ (group * colon) ^ 5 *
      (colon * quadPattern + repeated 1 2 (colon * group) + colon) ↔ Around 5 s := by
    rw [← mem_front_mul_rest_iff (by decide) (show 2 = 0 + 2 from rfl) rfl, repeated_zero, one_mul]
  have h4 := mem_front_mul_rest_iff (s := s) (show 0 < 4 by decide) (show 3 = 1 + 2 from rfl) rfl
  have h3 := mem_front_mul_rest_iff (s := s) (show 0 < 3 by decide) (show 4 = 2 + 2 from rfl) rfl
  have h2 := mem_front_mul_rest_iff (s := s) (show 0 < 2 by decide) (show 5 = 3 + 2 from rfl) rfl
  have h1 := mem_front_mul_rest_iff (s := s) (show 0 < 1 by decide) (show 6 = 4 + 2 from rfl) rfl
  simp only [addressPattern, Language.mem_add, mem_seven_iff, mem_six_iff, h5, h4, h3, h2, h1,
    mem_colon_mul_rest_iff, spelled_iff_around, or_assoc]
  constructor
  · rintro (h | h | h | h | h | h | h | h | h | h)
    · exact .inl h
    · exact .inr (.inr ⟨7, by decide, h⟩)
    · exact .inr (.inl h)
    · exact .inr (.inr ⟨6, by decide, h⟩)
    · exact .inr (.inr ⟨5, by decide, h⟩)
    · exact .inr (.inr ⟨4, by decide, h⟩)
    · exact .inr (.inr ⟨3, by decide, h⟩)
    · exact .inr (.inr ⟨2, by decide, h⟩)
    · exact .inr (.inr ⟨1, by decide, h⟩)
    · exact .inr (.inr ⟨0, by decide, h⟩)
  · rintro (h | h | ⟨k, hk, h⟩)
    · exact .inl h
    · exact .inr (.inr (.inl h))
    · interval_cases k <;> simp only [h, true_or, or_true]

/-! Zones, and the loose form. -/

def alphanumeric : Language Char := {s | ∃ c : Char, c.isAlphanum ∧ s = [c]}

def scopedPattern : Language Char :=
  addressPattern * (1 + {['%']} * (alphanumeric * alphanumeric∗))

/-- A double colon and a digit, with anything before and after them. -/
def loosePattern : Language Char := ⊤ * ({[':', ':']} * digit 0 9) * ⊤

theorem mem_alphanumeric_kstar_iff : s ∈ alphanumeric∗ ↔ ∀ c ∈ s, c.isAlphanum := by
  have hclass (t : List Char) : t ∈ alphanumeric ↔ ∃ c : Char, c.isAlphanum ∧ t = [c] := Iff.rfl
  simp only [mem_kstar_iff hclass, List.flatMap_singleton', exists_eq_right']

theorem mem_scopedPattern_iff : s ∈ scopedPattern ↔ Scoped s := by
  simp only [scopedPattern, Language.mem_mul, Language.mem_add, Language.mem_one,
    mem_addressPattern_iff, mem_alphanumeric_kstar_iff]
  constructor
  · rintro ⟨address, haddress, _, rfl | ⟨_, rfl, _, ⟨_, ⟨c, hc, rfl⟩, r, hr, rfl⟩, rfl⟩, rfl⟩
    · simpa using Scoped.plain haddress
    · exact .zoned haddress (by simp) (List.forall_mem_cons.2 ⟨hc, hr⟩)
  · intro h
    cases h with
    | plain h => exact ⟨s, h, [], .inl rfl, by simp⟩
    | @zoned address zone h hne hzone =>
      obtain ⟨c, r, rfl⟩ := List.exists_cons_of_ne_nil hne
      rw [List.forall_mem_cons] at hzone
      exact ⟨address, h, _, .inr ⟨['%'], rfl, _, ⟨[c], ⟨c, hzone.1, rfl⟩, r, hzone.2, rfl⟩, rfl⟩,
        rfl⟩

theorem mem_loosePattern_iff : s ∈ loosePattern ↔ Loose s := by
  simp only [loosePattern, Language.mem_mul]
  constructor
  · rintro ⟨_, ⟨before, -, _, ⟨_, rfl, _, ⟨d, -, hd, rfl⟩, rfl⟩, rfl⟩, after, -, rfl⟩
    exact ⟨before, d.digitChar, after, by simp, isDigit_iff.2 ⟨d, by omega, rfl⟩⟩
  · rintro ⟨before, c, after, rfl, hc⟩
    obtain ⟨d, hd, rfl⟩ := isDigit_iff.1 hc
    exact ⟨_, ⟨before, trivial, _, ⟨_, rfl, _, ⟨d, Nat.zero_le d, by omega, rfl⟩, rfl⟩, rfl⟩, after,
      trivial, by simp⟩

/-- The addresses of version six are the texts with a double colon before a digit and those of the
documented grammar, with or without a zone. -/
theorem isIpv6_documented (s : List Char) :
    (isIpv6 s ↔ Loose s ∨ Scoped s) ∧ (s ∈ loosePattern + scopedPattern ↔ Loose s ∨ Scoped s) := by
  refine ⟨?_, ?_⟩
  · rw [isIpv6, Bool.or_eq_true, isScoped_iff, looksCompressed_iff, or_comm]
  · rw [Language.mem_add, mem_loosePattern_iff, mem_scopedPattern_iff]

/-- A double colon stands for one group at least, but before a digit anything goes. -/
example :
    isIpv6 "1:2:3:4:5:6:7::".toList = true ∧ isIpv6 "1:2:3:4:5:6:7::a".toList = false ∧
      isIpv6 "1:2:3:4:5:6:7::8".toList = true ∧ isIpv6 "no address ::1".toList = true := by
  decide +kernel

end ZoneAudit.Address
