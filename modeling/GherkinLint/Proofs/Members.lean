import GherkinLint.Data
import Mathlib.Data.List.Nodup

namespace GherkinLint.Members

variable {α : Type}

theorem lookup_put (name key : String) (value : α) (members : Members α) :
    (members.put name value).lookup key =
      if key = name then some value else members.lookup key := by
  induction members with
  | nil => by_cases h : key = name <;> simp [put, h]
  | cons first rest ih =>
    obtain ⟨other, found⟩ := first
    rw [put, List.lookup_cons]
    by_cases hother : other = name
    · subst hother
      by_cases h : key = other
      · simp [h]
      · have hbeq : (key == other) = false := by simpa using h
        simp [List.lookup_cons, hbeq, h]
    · rw [if_neg hother, List.lookup_cons, ih]
      by_cases h : key = other
      · simp [h, hother]
      · have hbeq : (key == other) = false := by simpa using h
        simp [hbeq]

theorem put_put (name : String) (first second : α) (members : Members α) :
    (members.put name first).put name second = members.put name second := by
  induction members with
  | nil => simp [put]
  | cons member rest ih =>
    by_cases h : member.1 = name
    · simp [put, h]
    · simp [put, h, ih]

theorem put_of_lookup {name : String} {value : α} {members : Members α}
    (h : members.lookup name = some value) : members.put name value = members := by
  induction members with
  | nil => cases h
  | cons member rest ih =>
    obtain ⟨other, found⟩ := member
    by_cases hother : other = name
    · subst hother
      rw [List.lookup_cons, beq_self_eq_true] at h
      cases h
      simp [put]
    · have hbeq : (name == other) = false := by simpa using Ne.symm hother
      rw [List.lookup_cons, hbeq] at h
      simp [put, hother, ih h]

theorem filter_put_of_lookup {name : String} {members : Members α} (value : α)
    (h : members.lookup name = none) : (members.put name value).filter (·.1 ≠ name) = members := by
  induction members with
  | nil => simp [put]
  | cons member rest ih =>
    obtain ⟨other, found⟩ := member
    have hother : other ≠ name := by
      rintro rfl
      simp at h
    have hbeq : (name == other) = false := by simpa using Ne.symm hother
    rw [List.lookup_cons, hbeq] at h
    rw [put, if_neg hother, List.filter_cons_of_pos (by simpa using hother), ih h]

theorem mem_put {name : String} {value : α} {members : Members α} {member : String × α}
    (h : member ∈ members.put name value) : member = (name, value) ∨ member ∈ members := by
  induction members with
  | nil => exact .inl (List.mem_singleton.1 h)
  | cons first rest ih =>
    rw [put] at h
    split at h
    · exact (List.mem_cons.1 h).imp_right (List.mem_cons_of_mem first)
    · rcases List.mem_cons.1 h with rfl | h
      · exact .inr List.mem_cons_self
      · exact (ih h).imp_right (List.mem_cons_of_mem first)

theorem mem_of_lookup {key : String} {value : α} {members : Members α}
    (h : members.lookup key = some value) : (key, value) ∈ members := by
  obtain ⟨before, after, rfl, -⟩ := List.lookup_eq_some_iff.1 h
  exact List.mem_append_right before List.mem_cons_self

theorem lookup_eq_some_iff {key : String} {value : α} {members : Members α}
    (hnames : members.names.Nodup) : members.lookup key = some value ↔ (key, value) ∈ members := by
  refine ⟨mem_of_lookup, fun h ↦ ?_⟩
  induction members with
  | nil => cases h
  | cons member rest ih =>
    obtain ⟨other, found⟩ := member
    rw [names, List.map_cons, List.nodup_cons] at hnames
    rw [List.lookup_cons]
    rcases List.mem_cons.1 h with h | h
    · cases h
      rw [beq_self_eq_true]
    · have hother : key ≠ other := fun heq ↦ hnames.1 (List.mem_map.2 ⟨_, h, heq⟩)
      rw [beq_false_of_ne hother]
      exact ih hnames.2 h

theorem lookup_eq_of_perm {members others : Members α} (hnames : members.names.Nodup)
    (h : members.Perm others) (key : String) : members.lookup key = others.lookup key := by
  have hothers : others.names.Nodup := (h.map Prod.fst).nodup hnames
  apply Option.ext
  intro value
  rw [lookup_eq_some_iff hnames, lookup_eq_some_iff hothers, h.mem_iff]

theorem lookup_between (before after : Members α) (name key : String) (value : α) :
    (before ++ (name, value) :: after).lookup key =
      (before.lookup key).or (if key = name then some value else after.lookup key) := by
  rw [List.lookup_append, List.lookup_cons]
  by_cases h : key = name
  · rw [if_pos h, h, beq_self_eq_true]
  · rw [if_neg h, beq_false_of_ne h]

/-- Members under other names do not hide anything. -/
theorem lookup_filter {p : String → Bool} {key : String} (hkey : p key = true)
    (members : Members α) : (members.filter (p ·.1)).lookup key = members.lookup key := by
  induction members with
  | nil => rfl
  | cons member rest ih =>
    obtain ⟨other, found⟩ := member
    by_cases h : key = other
    · subst h
      rw [List.filter_cons, if_pos hkey, List.lookup_cons_self, List.lookup_cons_self]
    · rw [List.filter_cons, List.lookup_cons, beq_false_of_ne h]
      split
      · rw [List.lookup_cons, beq_false_of_ne h, ih]
      · exact ih

end GherkinLint.Members
