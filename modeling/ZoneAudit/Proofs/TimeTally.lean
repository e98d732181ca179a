import Mathlib.Data.List.Induction
import Mathlib.Logic.Function.Basic
import ZoneAudit.Proofs.RecordSets

/-!
Record sets in one pass. A tally notes each key when its first record comes and each time behind
those of its set, and it is in step with the records all the way: so the warnings about times are
those about the mixed sets, in the order in which the sets appear, each with all times of its set.
-/

namespace ZoneAudit.Ttl

/-- The keys that have come so far, and the times of their sets. -/
structure Tally where
  order : List Key
  times : Key → List UInt32

variable {rs : List Record} {t : Tally}

namespace Tally

def empty : Tally := ⟨[], fun _ => []⟩

/-- The key of a record is new if its set has no time yet. -/
def add (t : Tally) (r : Record) : Tally where
  order := if t.times (key r) = [] then t.order ++ [key r] else t.order
  times := Function.update t.times (key r) (t.times (key r) ++ [r.ttl])

def ofRecords (rs : List Record) : Tally := rs.foldl add empty

/-- A tally in step with records: each of their keys stands once, at the place of its first record,
and has the times of its set. -/
structure InStep (rs : List Record) (t : Tally) : Prop where
  times_eq : ∀ k, t.times k = timesOf k rs
  order_eq : t.order = (rs.map key).eraseDups
  sorted : t.order.Pairwise fun k l => (rs.map key).idxOf k < (rs.map key).idxOf l

end Tally

theorem timesOf_concat (k : Key) (rs : List Record) (r : Record) :
    timesOf k (rs ++ [r]) = timesOf k rs ++ if key r = k then [r.ttl] else [] := by
  rw [timesOf, List.filter_append, List.map_append, ← timesOf]
  by_cases h : key r = k <;> simp [h]

theorem timesOf_eq_nil_iff {k : Key} : timesOf k rs = [] ↔ k ∉ rs.map key := by
  simp [timesOf, List.filter_eq_nil_iff]

/-- What is appended to a list counts among its members without repetition if it is new. -/
theorem eraseDups_concat {α : Type} [BEq α] [LawfulBEq α] (xs : List α) (x : α) [Decidable (x ∈ xs)] :
    (xs ++ [x]).eraseDups = if x ∈ xs then xs.eraseDups else xs.eraseDups ++ [x] := by
  rw [List.eraseDups_append]
  by_cases h : x ∈ xs <;> simp [List.removeAll, List.eraseDups_cons, h]

namespace Tally

theorem inStep_empty : InStep [] empty := ⟨fun _ => rfl, rfl, .nil⟩

namespace InStep

theorem order_add (h : InStep rs t) (r : Record) :
    (t.add r).order = if key r ∈ rs.map key then t.order else t.order ++ [key r] := by
  by_cases hr : key r ∈ rs.map key
  · have htimes : t.times (key r) ≠ [] := by
      rwa [h.times_eq, Ne, timesOf_eq_nil_iff, not_not]
    rw [Tally.add, if_neg htimes, if_pos hr]
  · have htimes : t.times (key r) = [] := by
      rwa [h.times_eq, timesOf_eq_nil_iff]
    rw [Tally.add, if_pos htimes, if_neg hr]

theorem mem_order_iff (h : InStep rs t) {k : Key} : k ∈ t.order ↔ k ∈ rs.map key := by
  rw [h.order_eq, List.mem_eraseDups]

/-- One more record leaves the places of the keys as they are, and a new key has the last place. -/
theorem sorted_add (h : InStep rs t) (r : Record) :
    (t.add r).order.Pairwise fun k l =>
      ((rs ++ [r]).map key).idxOf k < ((rs ++ [r]).map key).idxOf l := by
  rw [List.map_append, List.map_singleton]
  have hplace {k : Key} (hk : k ∈ t.order) :
      (rs.map key ++ [key r]).idxOf k = (rs.map key).idxOf k :=
    List.idxOf_append_of_mem (h.mem_order_iff.1 hk)
  have hold : t.order.Pairwise fun k l =>
      (rs.map key ++ [key r]).idxOf k < (rs.map key ++ [key r]).idxOf l := by
    refine h.sorted.imp_of_mem fun hk hl hlt => ?_
    rwa [hplace hk, hplace hl]
  rw [h.order_add]
  split
  case isTrue => exact hold
  case isFalse hr =>
    refine List.pairwise_append.2 ⟨hold, List.pairwise_singleton _ _, fun k hk l hl => ?_⟩
    rw [List.mem_singleton.1 hl, hplace hk, List.idxOf_append_of_notMem hr, List.idxOf_cons_self]
    exact List.idxOf_lt_length_of_mem (h.mem_order_iff.1 hk)

theorem add (h : InStep rs t) (r : Record) : InStep (rs ++ [r]) (t.add r) where
  times_eq k := by
    rw [Tally.add, timesOf_concat]
    by_cases hk : k = key r
    · subst hk
      simp [h.times_eq]
    · simp [hk, Ne.symm hk, h.times_eq]
  order_eq := by
    rw [h.order_add, List.map_append, List.map_singleton, eraseDups_concat, h.order_eq]
  sorted := h.sorted_add r

end InStep

theorem inStep_ofRecords (rs : List Record) : InStep rs (ofRecords rs) := by
  induction rs using List.reverseRecOn with
  | nil => exact inStep_empty
  | append_singleton rs r ih =>
    rw [ofRecords, List.foldl_concat]
    exact ih.add r

end Tally

/-- The warnings are those that the tally of the records gives. -/
theorem inconsistencies_eq_tally (rs : List Record) :
    inconsistencies rs =
      ((Tally.ofRecords rs).order.filter (mixed rs)).map fun k =>
        inconsistent k ((Tally.ofRecords rs).times k) := by
  have h := Tally.inStep_ofRecords rs
  rw [inconsistencies_eq, h.order_eq, funext h.times_eq]

theorem mem_timesOf {k : Key} {time : UInt32} :
    time ∈ timesOf k rs ↔ ∃ r ∈ rs, key r = k ∧ r.ttl = time := by
  simp [timesOf, and_assoc]

theorem mixed_iff_exists {k : Key} :
    mixed rs k ↔ ∃ r ∈ rs, ∃ s ∈ rs, key r = k ∧ key s = k ∧ r.ttl ≠ s.ttl := by
  simp only [mixed_iff, mem_timesOf]
  constructor
  · rintro ⟨_, ⟨r, hr, hrk, rfl⟩, _, ⟨s, hs, hsk, rfl⟩, hne⟩
    exact ⟨r, hr, s, hs, hrk, hsk, hne⟩
  · rintro ⟨r, hr, s, hs, hrk, hsk, hne⟩
    exact ⟨r.ttl, ⟨r, hr, hrk, rfl⟩, s.ttl, ⟨s, hs, hsk, rfl⟩, hne⟩

theorem inconsistent_eq (k : Key) (rs : List Record) :
    inconsistent k (timesOf k rs) = {
      code := "inconsistent_ttl_values_across_record_set"
      message := "Inconsistent TTL values across record set"
      severity := .warning
      metadata := some [("name", .str k.1), ("recordType", .str k.2.mnemonic),
        ("ttls", .arr ((rs.filter (key · = k)).map fun r => .int r.ttl.toNat))] } := by
  have hcode : Text.slug "Inconsistent TTL values across record set" =
      "inconsistent_ttl_values_across_record_set" := by
    decide +kernel
  simp [inconsistent, Diagnostic.warning, Diagnostic.of, Diagnostic.note, hcode, timesOf, Json.setMember]

/-- There is one warning for each key whose records differ in time, in the order of their first
records, and it shows all their times. -/
theorem inconsistencies_exact (rs : List Record) :
    ∃ ks : List Key,
      (∀ k, k ∈ ks ↔ ∃ r ∈ rs, ∃ s ∈ rs, key r = k ∧ key s = k ∧ r.ttl ≠ s.ttl) ∧
      ks.Nodup ∧
      (ks.Pairwise fun k l => (rs.map key).idxOf k < (rs.map key).idxOf l) ∧
      inconsistencies rs = ks.map fun k => {
        code := "inconsistent_ttl_values_across_record_set"
        message := "Inconsistent TTL values across record set"
        severity := .warning
        metadata := some [("name", .str k.1), ("recordType", .str k.2.mnemonic),
          ("ttls", .arr ((rs.filter (key · = k)).map fun r => .int r.ttl.toNat))] } := by
  have h := Tally.inStep_ofRecords rs
  have hsorted := h.sorted.filter (mixed rs)
  refine ⟨(Tally.ofRecords rs).order.filter (mixed rs), fun k => ?_, ?_, hsorted, ?_⟩
  · rw [List.mem_filter, h.mem_order_iff, mixed_iff_exists]
    refine and_iff_right_of_imp ?_
    rintro ⟨r, hr, -, -, rfl, -⟩
    exact List.mem_map_of_mem hr
  · exact hsorted.imp fun hlt => ne_of_apply_ne (rs.map key).idxOf (Nat.ne_of_lt hlt)
  · rw [inconsistencies_eq_tally]
    apply List.map_congr_left
    intro k _
    rw [h.times_eq, inconsistent_eq]

/-- Two spellings of one name and two types: the set of the first type is the only mixed one. -/
example : (inconsistencies [⟨.a, "www.example.com", 300, "192.0.2.1"⟩,
    ⟨.aaaa, "www.example.com", 900, "2001:db8::1"⟩,
    ⟨.a, "WWW.example.com.", 600, "192.0.2.2"⟩]).map (·.metadata) =
      [some [("name", .str "www.example.com"), ("recordType", .str "A"),
        ("ttls", .arr [.int 300, .int 600])]] := by
  decide +kernel

end ZoneAudit.Ttl
