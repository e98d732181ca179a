import Mathlib.Data.List.Perm.Subperm
import ZoneAudit.Ttl

/-!
Record sets of a list of records: each key of the list owns a set of records, and the sets whose
times differ are warned about, once each. Another order of the records changes the order of the sets
and of the times in a set, but no set and no time; fewer records leave no set mixed that was not.
-/

namespace ZoneAudit.Ttl

section

variable {α : Type} [BEq α] [LawfulBEq α]

theorem nodup_eraseDups (xs : List α) : xs.eraseDups.Nodup := by
  induction hn : xs.length using Nat.strongRecOn generalizing xs with
  | ind n ih =>
    cases xs with
    | nil => simp
    | cons x xs =>
      have hlt : (xs.filter fun y => !y == x).length < n := by
        have hle := List.length_filter_le (fun y => !y == x) xs
        rw [List.length_cons] at hn
        omega
      have hx : x ∉ (xs.filter fun y => !y == x).eraseDups := by simp [List.mem_eraseDups]
      rw [List.eraseDups_cons]
      exact List.nodup_cons.2 ⟨hx, ih _ hlt _ rfl⟩

/-- Lists with the same members have the same members without repetition, in some order. -/
theorem eraseDups_perm {xs ys : List α} (h : xs.Perm ys) : xs.eraseDups.Perm ys.eraseDups := by
  rw [List.perm_ext_iff_of_nodup (nodup_eraseDups xs) (nodup_eraseDups ys)]
  intro x
  rw [List.mem_eraseDups, List.mem_eraseDups, h.mem_iff]

end

/-- The times of the records of a set, in the order of the records. -/
def timesOf (k : Key) (rs : List Record) : List UInt32 := (rs.filter (key · = k)).map Record.ttl

/-- Whether the records of a set differ in time. -/
def mixed (rs : List Record) (k : Key) : Bool :=
  !(timesOf k rs).all (some · = (timesOf k rs).head?)

theorem ttlsOf_keyed (k : Key) (rs : List Record) :
    ttlsOf k (rs.map fun r => (key r, r.ttl)) = timesOf k rs := by
  rw [ttlsOf, timesOf, List.filter_map, List.map_map]
  rfl

/-- One warning for each of the sets that are mixed. -/
theorem inconsistencies_eq (rs : List Record) :
    inconsistencies rs =
      ((rs.map key).eraseDups.filter (mixed rs)).map fun k => inconsistent k (timesOf k rs) := by
  have hkeys : (rs.map fun r => (key r, r.ttl)).map (·.1) = rs.map key := by simp
  have hmap := List.filterMap_filter (p := mixed rs)
    (f := fun k => some (inconsistent k (timesOf k rs))) (l := (rs.map key).eraseDups)
  rw [List.filterMap_eq_map'] at hmap
  rw [hmap, inconsistencies, hkeys]
  apply List.filterMap_congr
  intro k _
  simp only [ttlsOf_keyed, mixed]
  split
  case isTrue hall => simp [hall]
  case isFalse hall => simp [hall]

/-- A set is mixed just if two of its times differ. -/
theorem mixed_iff {rs : List Record} {k : Key} :
    mixed rs k ↔ ∃ t ∈ timesOf k rs, ∃ u ∈ timesOf k rs, t ≠ u := by
  cases h : timesOf k rs with
  | nil => simp [mixed, h]
  | cons t ts =>
    simp only [mixed, h, List.head?_cons, Option.some.injEq, List.all_cons, decide_true,
      Bool.true_and, Bool.not_eq_true', List.all_eq_false, decide_eq_true_eq]
    constructor
    · rintro ⟨u, hu, hne⟩
      exact ⟨u, by simp [hu], t, by simp, hne⟩
    · rintro ⟨u, hu, v, hv, hne⟩
      by_cases hut : u = t
      · have hvt : v ≠ t := fun hvt => hne (hut.trans hvt.symm)
        exact ⟨v, (List.mem_cons.1 hv).resolve_left hvt, hvt⟩
      · exact ⟨u, (List.mem_cons.1 hu).resolve_left hut, hut⟩

variable {rs ss : List Record}

theorem timesOf_perm (h : rs.Perm ss) (k : Key) : (timesOf k rs).Perm (timesOf k ss) :=
  (h.filter _).map _

theorem mixed_congr (h : rs.Perm ss) (k : Key) : mixed rs k = mixed ss k := by
  rw [Bool.eq_iff_iff, mixed_iff, mixed_iff]
  simp only [(timesOf_perm h k).mem_iff]

/-- The keys of the mixed sets do not depend on the order of the records, but for their own. -/
theorem mixed_keys_perm (h : rs.Perm ss) :
    ((rs.map key).eraseDups.filter (mixed rs)).Perm ((ss.map key).eraseDups.filter (mixed ss)) := by
  have hmixed : mixed rs = mixed ss := funext (mixed_congr h)
  rw [hmixed]
  exact (eraseDups_perm (h.map key)).filter _

/-- A set that is mixed among some of the records is mixed among all of them. -/
theorem mixed_of_sublist (h : rs.Sublist ss) {k : Key} (hk : mixed rs k) : mixed ss k := by
  have htimes : (timesOf k rs).Sublist (timesOf k ss) := (h.filter _).map _
  obtain ⟨t, ht, u, hu, hne⟩ := mixed_iff.1 hk
  exact mixed_iff.2 ⟨t, htimes.subset ht, u, htimes.subset hu, hne⟩

theorem mixed_keys_subperm (h : rs.Sublist ss) :
    ((rs.map key).eraseDups.filter (mixed rs)).Subperm
      ((ss.map key).eraseDups.filter (mixed ss)) := by
  apply List.subperm_of_subset ((nodup_eraseDups _).filter _)
  intro k hk
  obtain ⟨hkey, hmixed⟩ := List.mem_filter.1 hk
  rw [List.mem_eraseDups] at hkey
  rw [List.mem_filter, List.mem_eraseDups]
  exact ⟨(h.map key).subset hkey, mixed_of_sublist h hmixed⟩

end ZoneAudit.Ttl
