import GherkinLint.Proofs.Document.Result

namespace GherkinLint.Message

section Readers

variable {α β : Type}

/-- The reading ends with the first of these faults, and has a result when there is none. -/
inductive Stops : Except MessageFault α → List MessageFault → Prop
  | result (a : α) : Stops (.ok a) []
  | fault (first : MessageFault) (rest : List MessageFault) : Stops (.error first) (first :: rest)

namespace Stops

theorem exists_ok_iff {x : Except MessageFault α} {found : List MessageFault} (h : Stops x found) :
    (∃ a, x = .ok a) ↔ found = [] := by
  cases h with
  | result a => exact ⟨fun _ ↦ rfl, fun _ ↦ ⟨a, rfl⟩⟩
  | fault first rest => simp

theorem eq_error_iff {x : Except MessageFault α} {found : List MessageFault} (h : Stops x found)
    {fault : MessageFault} : x = .error fault ↔ found.head? = some fault := by
  cases h <;> simp

theorem bind {x : Except MessageFault α} {f : α → Except MessageFault β}
    {first second : List MessageFault} (hx : Stops x first)
    (hf : ∀ a, x = .ok a → Stops (f a) second) : Stops (x >>= f) (first ++ second) := by
  cases hx with
  | result a => exact hf a rfl
  | fault e rest => exact .fault e (rest ++ second)

theorem map {x : Except MessageFault α} {found : List MessageFault} (hx : Stops x found)
    (f : α → β) : Stops (f <$> x) found := by
  cases hx with
  | result a => exact .result (f a)
  | fault e rest => exact .fault e rest

theorem item {read : Members Data → Except MessageFault α} {kind : Kind} {d : Data}
    (h : ∀ inner, partOf d = .ok inner → Stops (read inner) (faults kind inner)) :
    Stops (item read d) (faultsOf kind (partOf d)) := by
  cases d with
  | object inner => exact h inner rfl
  | null | bool | int | fraction | moment | text | list => exact .fault .notObject []

theorem mapM {read : Members Data → Except MessageFault α} {kind : Kind} {items : List Data}
    (h : ∀ inner, .ok inner ∈ items.map partOf → Stops (read inner) (faults kind inner)) :
    Stops (items.mapM (Message.item read)) ((items.map partOf).flatMap (faultsOf kind)) := by
  induction items with
  | nil => exact .result []
  | cons d items ih =>
    have hd : Stops (Message.item read d) (faultsOf kind (partOf d)) :=
      .item fun inner hinner ↦ h inner (List.mem_cons.2 (.inl hinner.symm))
    have hitems := ih fun inner hinner ↦ h inner (List.mem_cons_of_mem _ hinner)
    rw [List.mapM_cons, List.map_cons, List.flatMap_cons]
    exact hd.bind fun _ _ ↦ hitems.map (List.cons _)

end Stops

variable {read : Members Data → Except MessageFault α} {key : String} {kind : Kind}
  {members : Members Data}

theorem Stops.part
    (h : ∀ inner, .ok inner ∈ (Slot.one key kind).parts members →
      Stops (read inner) (faults kind inner)) :
    Stops (part read key members) ((Slot.one key kind).faults members) := by
  rw [part_eq]
  unfold Slot.faults Slot.parts Slot.key at *
  dsimp only at *
  cases hlookup : members.lookup key with
  | none => exact .result none
  | some d =>
    simp only [hlookup, Slot.partsAt] at *
    cases hd : d.isEmpty with
    | true => exact .result none
    | false =>
      simp only [hd] at h
      have hitem : Stops (Message.item read d) (faultsOf kind (partOf d)) :=
        .item fun inner hinner ↦ h inner (List.mem_singleton.2 hinner.symm)
      have hfound := hitem.map some
      rw [← List.flatMap_singleton (faultsOf kind) (partOf d)] at hfound
      exact hfound

theorem Stops.list
    (h : ∀ inner, .ok inner ∈ (Slot.many key kind).parts members →
      Stops (read inner) (faults kind inner)) :
    Stops (list (Message.item read) key members) ((Slot.many key kind).faults members) := by
  unfold Slot.faults Slot.parts Slot.key at *
  unfold Message.list
  dsimp only at *
  cases hlookup : members.lookup key with
  | none => exact .result []
  | some d =>
    simp only [hlookup, Slot.partsAt] at *
    cases d with
    | list items => exact .mapM h
    | text s =>
      rw [listOf, itemsOf]
      by_cases hs : s = ""
      · subst hs
        exact .result []
      · obtain ⟨c, rest, hchars⟩ := List.exists_cons_of_ne_nil (mt String.toList_eq_nil_iff.1 hs)
        rw [if_neg hs, hchars]
        exact .fault .notObject _
    | object inner =>
      cases inner with
      | nil => exact .result []
      | cons => exact .fault .notObject _
    | null | bool | int | fraction | moment => exact .fault .notList []

end Readers

theorem stops_location (members : Members Data) :
    Stops (location members) ((Slot.one "location" .location).faults members) := by
  have hplace (inner : Members Data) (place : Location) :
      Stops (pure place) (faults .location inner) := by
    rw [faults_eq]
    exact .result place
  rw [← List.append_nil (Slot.faults _ members)]
  exact (Stops.part fun inner _ ↦ hplace inner _).bind fun _ _ ↦ .result _

theorem stops_tableCell (members : Members Data) :
    Stops (tableCell members) (faults .cell members) := by
  rw [faults_eq]
  exact (stops_location members).bind fun _ _ ↦ .result _

theorem stops_tableRow (members : Members Data) :
    Stops (tableRow members) (faults .row members) := by
  rw [faults_eq]
  exact (stops_location members).bind fun _ _ ↦
    (Stops.list fun inner _ ↦ stops_tableCell inner).bind fun _ _ ↦ .result _

theorem stops_dataTable (members : Members Data) :
    Stops (dataTable members) (faults .dataTable members) := by
  rw [faults_eq]
  exact (stops_location members).bind fun _ _ ↦
    (Stops.list fun inner _ ↦ stops_tableRow inner).bind fun _ _ ↦ .result _

theorem stops_docString (members : Members Data) :
    Stops (docString members) (faults .docString members) := by
  rw [faults_eq]
  exact (stops_location members).bind fun _ _ ↦ .result _

theorem stops_argument {table : Option DataTable} {doc : Option DocString} {members : Members Data}
    (htable : part dataTable "dataTable" members = .ok table)
    (hdoc : part docString "docString" members = .ok doc) :
    Stops (argument table doc) (if overloads .step members then [.twoArguments] else []) := by
  unfold overloads
  rw [← isSome_of_part htable, ← isSome_of_part hdoc]
  match table, doc with
  | none, none | some _, none | none, some _ => exact .result _
  | some _, some _ => exact .fault .twoArguments []

theorem stops_step (members : Members Data) : Stops (step members) (faults .step members) := by
  rw [faults_eq]
  exact (stops_location members).bind fun _ _ ↦
    (Stops.part fun inner _ ↦ stops_dataTable inner).bind fun _ htable ↦
      (Stops.part fun inner _ ↦ stops_docString inner).bind fun _ hdoc ↦
        (stops_argument htable hdoc).map _

theorem stops_examples (members : Members Data) :
    Stops (examples members) (faults .examples members) := by
  rw [faults_eq]
  exact (stops_location members).bind fun _ _ ↦
    (Stops.part fun inner _ ↦ stops_tableRow inner).bind fun _ _ ↦
      (Stops.list fun inner _ ↦ stops_tableRow inner).bind fun _ _ ↦ .result _

theorem stops_scenario (members : Members Data) :
    Stops (scenario members) (faults .scenario members) := by
  rw [faults_eq]
  exact (stops_location members).bind fun _ _ ↦
    (Stops.list fun inner _ ↦ stops_step inner).bind fun _ _ ↦
      (Stops.list fun inner _ ↦ stops_examples inner).bind fun _ _ ↦ .result _

theorem stops_background (members : Members Data) :
    Stops (background members) (faults .background members) := by
  rw [faults_eq]
  exact (stops_location members).bind fun _ _ ↦
    (Stops.list fun inner _ ↦ stops_step inner).bind fun _ _ ↦ .result _

mutual

theorem stops_child (members : Members Data) :
    Stops (childNode members) (faults .child members) := by
  rw [faults_eq]
  exact (Stops.part fun inner _ ↦ stops_scenario inner).bind fun _ _ ↦
    (Stops.part fun inner _ ↦ stops_background inner).bind fun _ _ ↦
      (Stops.part fun inner _ ↦ stops_group inner).bind fun _ _ ↦ .result _
termination_by sizeOf members
decreasing_by exact sizeOf_lt_of_mem_parts ‹_›

theorem stops_group (members : Members Data) : Stops (group members) (faults .group members) := by
  rw [faults_eq, group, child_eq]
  exact (stops_location members).bind fun _ _ ↦
    (Stops.list fun inner _ ↦ stops_child inner).bind fun _ _ ↦ .result _
termination_by sizeOf members
decreasing_by exact sizeOf_lt_of_mem_parts ‹_›

end

theorem stops_feature (members : Members Data) :
    Stops (feature members) (faults .feature members) := by
  rw [faults_eq, feature_eq]
  exact (stops_location members).bind fun _ _ ↦
    (Stops.list fun inner _ ↦ stops_child inner).bind fun _ _ ↦ .result _

theorem stops_comment (members : Members Data) :
    Stops (comment members) (faults .comment members) := by
  rw [faults_eq]
  exact .result _

/-- A message as a whole is a node, like the items of a list. -/
theorem stops_ofMessage (uri : String) (d : Data) :
    Stops (Document.ofMessage uri d) (faultsOf .document (partOf d)) := by
  cases d with
  | object members =>
    rw [partOf, faultsOf, faults_eq]
    exact (Stops.part fun inner _ ↦ stops_feature inner).bind fun _ _ ↦
      (Stops.list fun inner _ ↦ stops_comment inner).bind fun _ _ ↦ .result _
  | null | bool | int | fraction | moment | text | list => exact .fault .notObject []

end GherkinLint.Message
