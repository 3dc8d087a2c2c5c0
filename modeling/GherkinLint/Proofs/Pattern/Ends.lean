import GherkinLint.Pattern.Search

namespace GherkinLint.Pattern

variable {place stop : Place}

def Place.past (place : Place) (taken rest : List Char) : Place :=
  { place with before := taken.reverse ++ place.before, after := rest }

theorem Place.past_cons (place : Place) (c : Char) (after taken rest : List Char) :
    (place.past [c] after).past taken rest = place.past (c :: taken) rest := by
  simp [past]

theorem mem_ends_empty : stop ∈ Node.empty.ends place ↔ stop = place := by
  rw [Node.ends, List.mem_singleton]

theorem mem_ends_one {set : CharSet} :
    stop ∈ (Node.one set).ends place ↔
      ∃ c after, place.after = c :: after ∧ set.holds c ∧ stop = place.past [c] after := by
  rw [Node.ends, Option.mem_toList, Place.step?]
  cases hafter : place.after with
  | nil => simp
  | cons c after =>
    rw [Option.ite_none_right_eq_some]
    constructor
    · intro h
      obtain ⟨hc, hstop⟩ := h
      exact ⟨c, after, rfl, hc, (Option.some.inj hstop).symm⟩
    · intro h
      obtain ⟨d, rest, hd, hc, hstop⟩ := h
      obtain ⟨rfl, rfl⟩ := List.cons.inj hd
      exact ⟨hc, congrArg some hstop.symm⟩

theorem mem_ends_seq {first second : Node} :
    stop ∈ (Node.seq first second).ends place ↔
      ∃ middle ∈ first.ends place, stop ∈ second.ends middle := by
  rw [Node.ends, List.mem_eraseDups, List.mem_flatMap]

theorem mem_ends_group {index : Nat} {body : Node} :
    stop ∈ (Node.group index body).ends place ↔
      ∃ inner ∈ body.ends place, stop = inner.setGroup index (place.taken inner) := by
  rw [Node.ends, List.mem_map]
  exact exists_congr fun inner ↦ and_congr_right fun _ ↦ eq_comm

theorem mem_ends_not_ahead {body : Node} :
    stop ∈ (Node.ahead true body).ends place ↔ stop = place ∧ body.ends place = [] := by
  rw [Node.ends]
  cases body.ends place <;> simp

theorem mem_ends_not_behind {width : Nat} {body : Node} :
    stop ∈ (Node.behind true width body).ends place ↔
      stop = place ∧ ∀ start ∈ place.back? width, body.ends start = [] := by
  rw [Node.ends]
  cases place.back? width with
  | none => simp
  | some start => cases hends : body.ends start <;> simp [hends]

theorem mem_repeated_succ {body : Place → List Place} {fuel least : Nat} :
    stop ∈ repeated body false (fuel + 1) (least + 1) none place ↔
      ∃ next ∈ body place, stop ∈ repeated body false fuel least none next := by
  rw [repeated, List.mem_eraseDups, List.mem_flatMap]

/-- A repetition that may end goes on, or ends where it is. -/
theorem mem_repeated_zero {body : Place → List Place} {fuel : Nat}
    (hbody : ∀ next ∈ body place, next.after.length ≠ place.after.length) :
    stop ∈ repeated body false (fuel + 1) 0 none place ↔
      (∃ next ∈ body place, stop ∈ repeated body false fuel 0 none next) ∨ stop = place := by
  rw [repeated, List.mem_eraseDups]
  simp only [reduceCtorEq, Bool.false_eq_true, if_false, List.mem_append, List.mem_singleton,
    List.mem_flatMap, Option.map_none]
  refine or_congr_left (exists_congr fun next ↦ and_congr_right fun hnext ↦ ?_)
  rw [if_neg (hbody next hnext)]

/-- The characters at `place` begin with at least so many of the set, and `stop` is behind them. -/
def Runs (set : CharSet) (least : Nat) (place stop : Place) : Prop :=
  ∃ taken rest, place.after = taken ++ rest ∧ least ≤ taken.length ∧
    (∀ c ∈ taken, set.holds c) ∧ stop = place.past taken rest

theorem runs_succ_iff {set : CharSet} {least : Nat} :
    Runs set (least + 1) place stop ↔
      ∃ next ∈ (Node.one set).ends place, Runs set least next stop := by
  constructor
  · intro h
    obtain ⟨taken, rest, hafter, hleast, htaken, rfl⟩ := h
    cases taken with
    | nil => simp at hleast
    | cons c taken =>
      obtain ⟨hc, htaken⟩ := List.forall_mem_cons.1 htaken
      refine ⟨place.past [c] (taken ++ rest), mem_ends_one.2 ⟨c, _, hafter, hc, rfl⟩, ?_⟩
      exact ⟨taken, rest, rfl, by simpa using hleast, htaken, (Place.past_cons ..).symm⟩
  · intro h
    obtain ⟨next, hnext, taken, rest, hafter, hleast, htaken, rfl⟩ := h
    obtain ⟨c, after, hc, hholds, rfl⟩ := mem_ends_one.1 hnext
    obtain rfl : after = taken ++ rest := hafter
    refine ⟨c :: taken, rest, hc, by simpa using hleast, ?_, Place.past_cons ..⟩
    exact List.forall_mem_cons.2 ⟨hholds, htaken⟩

theorem runs_zero_iff {set : CharSet} :
    Runs set 0 place stop ↔ Runs set 1 place stop ∨ stop = place := by
  constructor
  · intro h
    obtain ⟨taken, rest, hafter, -, htaken, rfl⟩ := h
    cases taken with
    | nil => exact .inr (by rw [← List.nil_append rest, ← hafter]; rfl)
    | cons c taken => exact .inl ⟨c :: taken, rest, hafter, by simp, htaken, rfl⟩
  · rintro (⟨taken, rest, hafter, -, htaken, rfl⟩ | rfl)
    · exact ⟨taken, rest, hafter, Nat.zero_le _, htaken, rfl⟩
    · exact ⟨[], stop.after, rfl, Nat.le_refl 0, by simp, rfl⟩

theorem mem_repeated_one {set : CharSet} {fuel least : Nat}
    (hfuel : least + place.after.length < fuel) :
    stop ∈ repeated (Node.one set).ends false fuel least none place ↔
      Runs set least place stop := by
  induction fuel generalizing least place with
  | zero => omega
  | succ fuel ih =>
    have hshorter : ∀ next ∈ (Node.one set).ends place,
        next.after.length + 1 = place.after.length := by
      intro next hnext
      obtain ⟨c, after, hafter, -, rfl⟩ := mem_ends_one.1 hnext
      rw [hafter, List.length_cons]
      rfl
    have hnext {n : Nat} (hn : n + place.after.length ≤ fuel) :
        (∃ next ∈ (Node.one set).ends place,
          stop ∈ repeated (Node.one set).ends false fuel n none next) ↔
            Runs set (n + 1) place stop := by
      rw [runs_succ_iff]
      refine exists_congr fun next ↦ and_congr_right fun hmem ↦ ih ?_
      have := hshorter next hmem
      omega
    cases least with
    | zero =>
      rw [mem_repeated_zero, hnext (by omega), runs_zero_iff]
      intro next hmem
      have := hshorter next hmem
      omega
    | succ least => rw [mem_repeated_succ, hnext (by omega)]

/-- A greedy repetition of a set may end behind every part of the run of its characters. -/
theorem mem_ends_repeated_set {set : CharSet} {least : Nat} :
    stop ∈ (Node.times least none .greedy (.one set)).ends place ↔ Runs set least place stop := by
  have hfuel : least + place.after.length < least + place.after.length + 2 := by omega
  rw [← mem_repeated_one hfuel]
  rfl

end GherkinLint.Pattern
