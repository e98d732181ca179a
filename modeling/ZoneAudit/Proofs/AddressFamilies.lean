import Mathlib.Data.List.Basic
import Mathlib.Tactic.ByContra
import ZoneAudit.Proofs.Numerals
import ZoneAudit.Spf.Rules

/-!
The two families of addresses in sender policies. A dotted quad has no colon, and an address of
groups has one in its loose form, too, so no text is an address of both families. The part of a
value before its slash therefore settles which bound there is on the length after it: a value is
only ever measured by the family of its mechanism, and the first mechanism with a wrong value is
reported.
-/

namespace ZoneAudit

namespace Address
open Text

variable {s : List Char}

/-! Lists that are read item by item. -/

section

variable {α β : Type} {f : α → Option β} {xs : List α}

theorem isSome_mapM_iff : (xs.mapM f).isSome ↔ ∀ x ∈ xs, (f x).isSome := by
  induction xs with
  | nil => simp
  | cons x xs ih =>
    rw [List.mapM_cons, List.forall_mem_cons, ← ih]
    cases f x <;> cases xs.mapM f <;> simp

theorem length_of_mapM {ys : List β} (h : xs.mapM f = some ys) : ys.length = xs.length := by
  induction xs generalizing ys with
  | nil =>
    obtain rfl := Option.some.inj h
    rfl
  | cons x xs ih =>
    simp only [List.mapM_cons, Option.bind_eq_bind, Option.bind_eq_some_iff, Option.pure_def,
      Option.some.injEq] at h
    obtain ⟨y, -, ys, hys, rfl⟩ := h
    rw [List.length_cons, List.length_cons, ih hys]

/-- A reader that only accepts what a writer writes reads a list only as it is written. -/
theorem mapM_eq_some_iff {write : β → α} {P : β → Prop}
    (h : ∀ x y, f x = some y ↔ x = write y ∧ P y) {ys : List β} :
    xs.mapM f = some ys ↔ xs = ys.map write ∧ ∀ y ∈ ys, P y := by
  induction xs generalizing ys with
  | nil => cases ys <;> simp
  | cons x xs ih =>
    simp only [List.mapM_cons, Option.bind_eq_bind, Option.bind_eq_some_iff, Option.pure_def,
      Option.some.injEq, h, ih]
    constructor
    · rintro ⟨y, ⟨rfl, hy⟩, ys, ⟨rfl, hys⟩, rfl⟩
      exact ⟨rfl, List.forall_mem_cons.2 ⟨hy, hys⟩⟩
    · rintro ⟨heq, hys⟩
      cases ys with
      | nil => cases heq
      | cons y ys =>
        obtain ⟨rfl, rfl⟩ := List.cons.inj heq
        rw [List.forall_mem_cons] at hys
        exact ⟨y, ⟨rfl, hys.1⟩, ys, ⟨rfl, hys.2⟩, rfl⟩

end

/-! Texts of one family only. -/

theorem isDigit_of_octet? (h : (octet? s).isSome) : ∀ c ∈ s, c.isDigit := by
  obtain ⟨n, hn⟩ := Option.isSome_iff_exists.1 h
  rw [octet?, Option.ite_none_right_eq_some, Option.filter_eq_some_iff, natural?_eq_some_iff] at hn
  exact hn.2.1.isDigit

theorem colon_notMem_of_isIpv4 (h : isIpv4 s) : ':' ∉ s := by
  intro hcolon
  obtain ⟨w, hw, hmem⟩ := exists_mem_splitOnP hcolon (p := (· == '.')) rfl
  rw [isIpv4, quad?] at h
  split at h
  case isTrue =>
    have hdigit := isDigit_of_octet? (isSome_mapM_iff.1 h w hw) ':' hmem
    exact absurd hdigit (by decide)
  case isFalse => cases h

theorem cutCompressed_eq_none (h : ':' ∉ s) : cutCompressed s = none := by
  fun_induction cutCompressed s with
  | case1 r => simp at h
  | case2 c r _ ih => simp [ih fun hr => h (List.mem_cons_of_mem c hr)]
  | case3 => rfl

theorem looksCompressed_eq_false (h : ':' ∉ s) : looksCompressed s = false := by
  fun_induction looksCompressed s with
  | case1 d r => simp at h
  | case2 c r _ ih => exact ih fun hr => h (List.mem_cons_of_mem c hr)
  | case3 => rfl

/-- Without a colon there is one piece, which stands for two groups at most. -/
theorem length_groupList?_le (h : ':' ∉ s) : ∀ gs ∈ groupList? s, gs.length ≤ 2 := by
  intro gs hgs
  simp only [groupList?, List.splitOn_eq_singleton h, List.getLast?_singleton, Option.getD_some,
    List.dropLast_singleton, List.mapM_nil, Option.pure_def, Option.bind_some, List.nil_append,
    Option.map_id_fun', id_eq, Option.mem_def] at hgs
  split at hgs
  case h_1 n _ =>
    obtain rfl := Option.some.inj hgs
    simp
  case h_2 =>
    split at hgs
    case h_1 =>
      obtain rfl := Option.some.inj hgs
      simp
    case h_2 => cases hgs

theorem groups?_eq_none (h : ':' ∉ s) : groups? s = none := by
  rw [groups?, cutCompressed_eq_none h, Option.filter_eq_none_iff]
  intro gs hgs
  have hlength := length_groupList?_le h gs hgs
  rw [decide_eq_true_eq]
  omega

theorem colon_mem_of_isIpv6 (h : isIpv6 s) : ':' ∈ s := by
  by_contra hcolon
  rw [isIpv6, looksCompressed_eq_false hcolon, Bool.or_false, isScoped] at h
  cases hcut : cut '%' s with
  | none => simp [hcut, groups?_eq_none hcolon] at h
  | some p =>
    obtain ⟨rfl, -⟩ := eq_append_of_cut hcut
    have haddress : ':' ∉ p.1 := fun hp => hcolon (List.mem_append_left _ hp)
    simp [hcut, groups?_eq_none haddress] at h

theorem isIpv4_eq_false (h : isIpv6 s) : isIpv4 s = false :=
  Bool.eq_false_iff.2 fun h4 => colon_notMem_of_isIpv4 h4 (colon_mem_of_isIpv6 h)

/-- The length after the slash may be as great as the family of the address allows. -/
theorem isCidr_append {address length : List Char} (h : '/' ∉ address) :
    isCidr (address ++ '/' :: length) ↔
      ∃ n, WritesUnsigned length n ∧
        (isIpv4 address ∧ n ≤ 32 ∨ isIpv6 address ∧ n ≤ 128) := by
  have hread : isCidr (address ++ '/' :: length) ↔
      ∃ n, unsigned? 0xFF length = some n ∧
        if isIpv4 address then n ≤ 32 else isIpv6 address ∧ n ≤ 128 := by
    simp only [isCidr, cut_append h]
    cases unsigned? 0xFF length with
    | none => simp
    | some n => by_cases h4 : isIpv4 address <;> simp [h4]
  have hfamily (n : Nat) : (if isIpv4 address then n ≤ 32 else isIpv6 address ∧ n ≤ 128) ↔
      isIpv4 address ∧ n ≤ 32 ∨ isIpv6 address ∧ n ≤ 128 := by
    by_cases h6 : isIpv6 address
    · simp [isIpv4_eq_false h6, h6]
    · simp [h6]
  simp only [hread, hfamily, unsigned?_eq_some_iff]
  refine exists_congr fun n => ⟨fun hn => ⟨hn.1.1, hn.2⟩, fun hn => ⟨⟨hn.1, ?_⟩, hn.2⟩⟩
  omega

end Address

namespace Spf
open Text

/-- The greatest number of bits before the slash of a range. -/
def Family.width : Family → Nat
  | .v4 => 32
  | .v6 => 128

/-- An address of the family without a slash, or one with a single slash and a length that fits the
family. -/
def Family.Admits (f : Family) (v : List Char) : Prop :=
  '/' ∉ v ∧ f.isAddress v ∨
  ∃ address length n, v = address ++ '/' :: length ∧ '/' ∉ address ∧ '/' ∉ length ∧
    f.isAddress address ∧ WritesUnsigned length n ∧ n ≤ f.width

/-- The value of a mechanism for addresses is one of its family, if it has a value. -/
def Mechanism.Sound (m : Mechanism) : Prop :=
  (m.method = .ip4 → ∀ v ∈ m.value, Family.v4.Admits v.toList) ∧
  (m.method = .ip6 → ∀ v ∈ m.value, Family.v6.Admits v.toList)

namespace Family

variable {f : Family} {v : List Char}

/-- The bound on the length goes by the family, which an address has no choice of. -/
theorem le_width_iff {address : List Char} (h : f.isAddress address) (n : Nat) :
    n ≤ f.width ↔ Address.isIpv4 address ∧ n ≤ 32 ∨ Address.isIpv6 address ∧ n ≤ 128 := by
  cases f with
  | v4 =>
    have h4 : Address.isIpv4 address := h
    have h6 : ¬Address.isIpv6 address := fun h6 => by simp [Address.isIpv4_eq_false h6] at h4
    simp [width, h4, h6]
  | v6 =>
    have h6 : Address.isIpv6 address := h
    simp [width, h6, Address.isIpv4_eq_false h6]

theorem accepts_iff : f.accepts v ↔ f.Admits v := by
  by_cases hv : '/' ∈ v
  · obtain ⟨address, length, rfl, hslash⟩ := List.eq_append_cons_of_mem hv
    have haccepts : f.accepts (address ++ '/' :: length) ↔
        f.isAddress address ∧ Address.isCidr (address ++ '/' :: length) := by
      simp [accepts, before_append hslash]
    rw [haccepts, Address.isCidr_append hslash]
    constructor
    · rintro ⟨haddress, n, hwrites, hbound⟩
      exact .inr ⟨address, length, n, rfl, hslash, hwrites.notMem rfl (by decide), haddress,
        hwrites, (le_width_iff haddress n).2 hbound⟩
    · rintro (⟨hnone, -⟩ | ⟨a, l, n, heq, ha, hl, haddress, hwrites, hbound⟩)
      · exact absurd hv hnone
      · obtain ⟨rfl, -, rfl⟩ := (List.append_cons_inj_of_notMem ha hl).1 heq.symm
        exact ⟨haddress, n, hwrites, (le_width_iff haddress n).1 hbound⟩
  · have hcontains : v.contains '/' = false := by simpa using hv
    rw [accepts, hcontains, Admits]
    refine ⟨fun h => .inl ⟨hv, h⟩, ?_⟩
    rintro (⟨-, h⟩ | ⟨a, l, n, rfl, -⟩)
    · exact h
    · simp at hv

theorem isAddress_before (h : f.Admits v) : f.isAddress (before '/' v) := by
  obtain ⟨hslash, h⟩ | ⟨address, length, n, rfl, hslash, -, h, -⟩ := h
  · rwa [before_of_notMem hslash]
  · rwa [before_append hslash]

/-- No value is right for both families. -/
theorem not_admits_both (v : List Char) : ¬(v4.Admits v ∧ v6.Admits v) := by
  rintro ⟨h4, h6⟩
  have h : Address.isIpv4 (before '/' v) := isAddress_before h4
  exact Bool.false_ne_true ((Address.isIpv4_eq_false (isAddress_before h6)).symm.trans h)

end Family

variable {r : Record} {p : Policy} {m : Mechanism}

theorem addressFault?_eq_none_iff : addressFault? m = none ↔ m.Sound := by
  cases hv : m.value with
  | none => simp [addressFault?, Mechanism.Sound, hv]
  | some v =>
    cases hm : m.method <;>
      simp [addressFault?, Mechanism.Sound, Method.family?, hv, hm, ← Family.accepts_iff]

/-- A finding on a mechanism shows its name and its value. -/
theorem exists_value_of_addressFault? {fault : Fault} (h : addressFault? m = some fault) :
    ∃ f v, m.value = some v ∧ fault = .address f m.method v := by
  rw [addressFault?] at h
  split at h
  case h_1 f v _ hv =>
    refine ⟨f, v, hv, ?_⟩
    split at h
    case isTrue => cases h
    case isFalse => exact (Option.some.inj h).symm
  case h_2 => cases h

theorem addresses_eq (h : parse? r.data = some p) (z : Zone) :
    addresses r z = (p.mechanisms.findSome? addressFault?).map Fault.diagnostic :=
  onPolicy_eq _ h z

/-- The rule on addresses is silent just if every value is an address of the family of its
mechanism; else it shows the first mechanism whose value is not. -/
theorem addresses_by_family (h : parse? r.data = some p) (z : Zone) :
    (addresses r z = none ↔ ∀ m ∈ p.mechanisms, m.Sound) ∧
    ((∃ m ∈ p.mechanisms, ¬m.Sound) →
      ∃ before m after v d, p.mechanisms = before ++ m :: after ∧ (∀ m' ∈ before, m'.Sound) ∧
        ¬m.Sound ∧ m.value = some v ∧ addresses r z = some d ∧ d.severity = .error ∧
        d.metadata = some [("mechanism", .str m.method.name), ("value", .str v)]) ∧
    ∀ v, ¬(Family.v4.Admits v ∧ Family.v6.Admits v) := by
  have hnone : p.mechanisms.findSome? addressFault? = none ↔ ∀ m ∈ p.mechanisms, m.Sound := by
    simp only [List.findSome?_eq_none_iff, addressFault?_eq_none_iff]
  rw [addresses_eq h, Option.map_eq_none_iff]
  refine ⟨hnone, ?_, Family.not_admits_both⟩
  rintro ⟨m, hm, hwrong⟩
  obtain ⟨fault, hfault⟩ := Option.ne_none_iff_exists'.1 fun hsilent =>
    hwrong (hnone.1 hsilent m hm)
  obtain ⟨before, first, after, hsplit, hfirst, hbefore⟩ := List.findSome?_eq_some_iff.1 hfault
  obtain ⟨f, v, hv, rfl⟩ := exists_value_of_addressFault? hfirst
  refine ⟨before, first, after, v, (Fault.address f first.method v).diagnostic, hsplit,
    fun m' hm' => addressFault?_eq_none_iff.1 (hbefore m' hm'), fun hsound => ?_, hv, ?_, rfl, ?_⟩
  · rw [addressFault?_eq_none_iff.2 hsound] at hfirst
    cases hfirst
  · rw [hfault, Option.map_some]
  · rfl

/-- A range of each family, then an address and a range under the name of the other family. -/
theorem addresses_by_family_exchanged :
    let r : Record := ⟨.txt, "example.com", 3600,
      "v=spf1 ip4:192.0.2.0/+024 ip6:2001:db8::/32 ip4 ip6:192.0.2.1 ip4:::1/8 -all"⟩
    let z : Zone := ⟨"example.com", [], none⟩
    ∃ p, parse? r.data = some p ∧ (∃ m ∈ p.mechanisms, ¬m.Sound) ∧
      ∃ before m after, p.mechanisms = before ++ m :: after ∧ (∀ m' ∈ before, m'.Sound) ∧
        ¬m.Sound ∧ m.method.name = "ip6" ∧ m.value = some "192.0.2.1" ∧
        ∃ d ∈ addresses r z, d.severity = .error := by
  intro r z
  have hparse : (parse? r.data).isSome := by decide +kernel
  have hfound : (addresses r z).map (·.metadata) =
      some (some [("mechanism", .str "ip6"), ("value", .str "192.0.2.1")]) := by
    decide +kernel
  obtain ⟨p, hp⟩ := Option.isSome_iff_exists.1 hparse
  have hwrong : ∃ m ∈ p.mechanisms, ¬m.Sound := by
    by_contra hsound
    rw [(addresses_by_family hp z).1.2 (by simpa using hsound)] at hfound
    cases hfound
  obtain ⟨before, m, after, v, d, hsplit, hbefore, hm, hv, hd, herror, hmetadata⟩ :=
    (addresses_by_family hp z).2.1 hwrong
  rw [hd, Option.map_some, hmetadata] at hfound
  simp only [Option.some.injEq, List.cons.injEq, Prod.mk.injEq, true_and, and_true,
    Json.str.injEq] at hfound
  exact ⟨p, hp, hwrong, before, m, after, hsplit, hbefore, hm, hfound.1, hfound.2 ▸ hv, d, hd,
    herror⟩

end Spf
end ZoneAudit
