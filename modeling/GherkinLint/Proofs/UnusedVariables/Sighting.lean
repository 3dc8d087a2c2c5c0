import GherkinLint.Rule.UnusedVariables
import Mathlib.Data.List.Induction
import Mathlib.Data.List.Nodup

namespace GherkinLint

theorem eraseDups_concat {α : Type} [DecidableEq α] (xs : List α) (x : α) :
    (xs ++ [x]).eraseDups =
      if x ∈ xs then xs.eraseDups else xs.eraseDups ++ [x] := by
  rw [List.eraseDups_append]
  by_cases h : x ∈ xs <;> simp [List.removeAll, h, List.eraseDups_cons]

theorem nodup_eraseDups {α : Type} [DecidableEq α] (xs : List α) :
    xs.eraseDups.Nodup := by
  induction xs using List.reverseRecOn with
  | nil => exact List.nodup_nil
  | append_singleton xs x ih =>
    rw [eraseDups_concat]
    split
    · exact ih
    next h =>
      rw [← List.mem_eraseDups] at h
      rw [List.nodup_append]
      refine ⟨ih, List.nodup_singleton x, fun a ha b hb ↦ ?_⟩
      rw [List.mem_singleton.1 hb]
      exact fun hab ↦ h (hab ▸ ha)

theorem eraseDups_filter {α : Type} [DecidableEq α] (p : α → Bool) (xs : List α) :
    (xs.filter p).eraseDups = xs.eraseDups.filter p := by
  induction xs using List.reverseRecOn with
  | nil => rfl
  | append_singleton xs x ih =>
    rw [List.filter_append, eraseDups_concat]
    by_cases hp : p x
    · rw [List.filter_singleton, hp, cond_true, eraseDups_concat, ih, apply_ite (List.filter p),
        List.filter_append]
      simp [hp]
    · rw [List.filter_singleton, Bool.eq_false_iff.2 hp, cond_false, List.append_nil, ih]
      split
      · rfl
      · simp [List.filter_append, hp]

/-- Putting a value gives it to its name, which is new behind the others or stays where it is. -/
theorem Members.put_map {α : Type} (names : List String) (hn : names.Nodup) (f : String → α)
    (name : String) (value : α) :
    put name value (names.map fun n ↦ (n, f n)) =
      (if name ∈ names then names else names ++ [name]).map
        fun n ↦ (n, if n = name then value else f n) := by
  induction names with
  | nil => simp [put]
  | cons first rest ih =>
    obtain ⟨hfirst, hrest⟩ := List.nodup_cons.1 hn
    by_cases h : first = name
    · have hf : rest.map (fun n ↦ (n, f n)) =
          rest.map fun n ↦ (n, if n = name then value else f n) := by
        refine List.map_congr_left fun n hmem ↦ ?_
        rw [if_neg]
        rintro rfl
        exact hfirst (h ▸ hmem)
      simp [put, h, hf]
    · have hm : name ∈ first :: rest ↔ name ∈ rest := by simp [Ne.symm h]
      simp only [List.map_cons, put, if_neg h, ih hrest, hm]
      split <;> simp [h]

namespace UnusedVariables

def lastSeen (variableName : String) (sightings : List Sighting) : Location :=
  ((sightings.filter (·.1 = variableName)).getLast?.map (·.2)).getD .unknown

theorem lastSeen_concat (v : String) (sightings : List Sighting) (s : Sighting) :
    lastSeen v (sightings ++ [s]) = if v = s.1 then s.2 else lastSeen v sightings := by
  unfold lastSeen
  rw [List.filter_append]
  by_cases h : v = s.1
  · simp [h]
  · simp [h, Ne.symm h]

theorem lastSeen_filter {v : String} {p : String → Bool} (hv : p v) (sightings : List Sighting) :
    lastSeen v (sightings.filter (p ·.1)) = lastSeen v sightings := by
  have hboth : (sightings.filter (p ·.1)).filter (·.1 = v) = sightings.filter (·.1 = v) := by
    rw [List.filter_filter]
    refine List.filter_congr fun s _ ↦ ?_
    by_cases hs : s.1 = v <;> simp [hs, hv]
  rw [lastSeen, hboth, lastSeen]

theorem lastSeen_mem {v : String} {sightings : List Sighting} (h : v ∈ sightings.map (·.1)) :
    (v, lastSeen v sightings) ∈ sightings := by
  induction sightings using List.reverseRecOn with
  | nil => simp at h
  | append_singleton sightings s ih =>
    rw [lastSeen_concat]
    split
    next hv => simp [hv]
    next hv =>
      have hmem : v ∈ sightings.map (·.1) := by simpa [hv] using h
      exact List.mem_append_left _ (ih hmem)

theorem latest_concat (sightings : List Sighting) (s : Sighting) :
    latest (sightings ++ [s]) = (latest sightings).put s.1 s.2 := by
  simp [latest]

theorem latest_eq (sightings : List Sighting) :
    latest sightings = (sightings.map (·.1)).eraseDups.map fun v ↦ (v, lastSeen v sightings) := by
  induction sightings using List.reverseRecOn with
  | nil => rfl
  | append_singleton sightings s ih =>
    rw [latest_concat, ih, Members.put_map _ (nodup_eraseDups _), List.map_append]
    simp only [List.map_cons, List.map_nil, eraseDups_concat, List.mem_eraseDups,
      lastSeen_concat]

theorem any_latest (sightings : List Sighting) (v : String) :
    (latest sightings).any (·.1 == v) = decide (v ∈ sightings.map (·.1)) := by
  rw [latest_eq, List.any_map, List.any_eq]
  simp [List.mem_eraseDups]

/-- What is reported of two lists of sightings: each variable of the one that the other lacks. -/
theorem missingFrom_latest (others seen : List Sighting) (message : String → String) :
    missingFrom (latest others) (latest seen) message =
      ((seen.map (·.1)).eraseDups.filter (· ∉ others.map (·.1))).map fun v ↦
        ⟨message v, name, (lastSeen v seen).line, columnOrZero (lastSeen v seen)⟩ := by
  simp only [missingFrom, any_latest]
  rw [latest_eq seen, List.filter_map, List.map_map]
  simp only [Function.comp_def, ← decide_not]

end UnusedVariables

end GherkinLint
