import GherkinLint.Proofs.Placeholder.Occurrence
import GherkinLint.Proofs.UnusedVariables.Report

namespace GherkinLint.UnusedVariables

def Names (message : String → String) (found : List Diagnostic) (v : String) : Prop :=
  ∃ d ∈ found, d.message = message v

instance (message : String → String) (found : List Diagnostic) (v : String) :
    Decidable (Names message found v) :=
  inferInstanceAs (Decidable (∃ d ∈ found, d.message = message v))

def columnsOf (header : Option TableRow) : List TableCell := (header.map (·.cells)).getD []

def withoutUnused (found : List Diagnostic) (examples : Examples) : Examples :=
  { examples with header := examples.header.map fun header ↦
      { header with cells := header.cells.filter fun cell ↦
          ¬∃ v ∈ cell.value, Names unusedMessage found v } }

/-- A repair of diagnostics: cells of columns that they name as unused are taken out of all headers,
and behind the cells of one header, which may be a new one, comes a cell for each variable that they
name as undeclared. -/
def IsRepair (found : List Diagnostic) (scenario repaired : Scenario) : Prop :=
  ∃ before block after header added,
    scenario.examples = before ++ block :: after ∧
    repaired = { scenario with
      examples := before.map (withoutUnused found) ++
        { block with header } :: after.map (withoutUnused found) } ∧
    columnsOf header = columnsOf (withoutUnused found block).header ++ added ∧
    (added.map (·.value)).Nodup ∧
    ∀ value, value ∈ added.map (·.value) ↔ ∃ v, value = some v ∧ Names undeclaredMessage found v

def diagnosticOf (message : String → String) (seen : List Sighting) (v : String) : Diagnostic :=
  ⟨message v, name, (lastSeen v seen).line, (lastSeen v seen).column.getD 0⟩

theorem mem_reportOf_iff {message : String → String} {seen : List Sighting} {known : List String}
    {d : Diagnostic} :
    d ∈ reportOf message seen known ↔
      ∃ v, (v ∈ seen.map (·.1) ∧ v ∉ known) ∧ d = diagnosticOf message seen v := by
  rw [reportOf, List.mem_map]
  refine exists_congr fun v ↦ ?_
  rw [List.mem_filter, List.mem_eraseDups, decide_eq_true_iff]
  exact and_congr_right fun _ ↦ eq_comm

/-- Sightings of other variables make no difference to what is reported of a variable. -/
theorem reportOf_filter (message : String → String) (seen : List Sighting) (known : List String)
    (p : String → Bool) :
    reportOf message (seen.filter (p ·.1)) known =
      ((seen.map (·.1)).eraseDups.filter fun v ↦ p v ∧ v ∉ known).map
        (diagnosticOf message seen) := by
  have hnames : ((seen.filter (p ·.1)).map (·.1)).eraseDups =
      (seen.map (·.1)).eraseDups.filter p := by
    rw [← eraseDups_filter, List.filter_map]
    rfl
  rw [reportOf, hnames, List.filter_filter]
  simp only [Bool.decide_and, Bool.decide_eq_true, Bool.and_comm (p _)]
  refine List.map_congr_left fun v hv ↦ ?_
  have hpv : p v := by
    rw [List.mem_filter, Bool.and_eq_true] at hv
    exact hv.2.2
  rw [diagnosticOf, lastSeen_filter hpv]

theorem reportOf_unknown (message : String → String) (seen : List Sighting)
    (known : List String) :
    reportOf message seen known = reportOf message (seen.filter (·.1 ∉ known)) known := by
  rw [reportOf_filter message seen known fun v ↦ v ∉ known]
  simp only [decide_eq_true_eq, and_self]
  rfl

/-- What is left of a report when some of its diagnostics are taken out. -/
theorem filter_reportOf {message : String → String} {seen : List Sighting} {known : List String}
    {found : List Diagnostic}
    (h : ∀ d ∈ found, ∀ v, d.message = message v → d = diagnosticOf message seen v) :
    (reportOf message seen known).filter (· ∉ found) =
      ((seen.map (·.1)).eraseDups.filter fun v ↦ ¬Names message found v ∧ v ∉ known).map
        (diagnosticOf message seen) := by
  have hnot (v : String) : diagnosticOf message seen v ∉ found ↔ ¬Names message found v := by
    refine not_congr ⟨fun hv ↦ ⟨_, hv, rfl⟩, fun hv ↦ ?_⟩
    obtain ⟨d, hd, hm⟩ := hv
    exact h d hd v hm ▸ hd
  rw [reportOf, List.filter_map, List.filter_filter]
  congr 1
  refine List.filter_congr fun v _ ↦ ?_
  change (decide (diagnosticOf message seen v ∉ found) && _) = _
  rw [Bool.decide_and, decide_eq_decide.2 (hnot v)]

section Scenario

variable {scenario : Scenario}

theorem unused_of_mem {d : Diagnostic} (hd : d ∈ checkScenario scenario) {v : String}
    (hm : d.message = unusedMessage v) :
    d = diagnosticOf unusedMessage (headed scenario) v ∧ v ∉ (placed scenario).map (·.1) := by
  rw [checkScenario_eq, reportOfScenario, List.mem_append] at hd
  rcases hd with hd | hd
  · obtain ⟨w, ⟨-, hw⟩, rfl⟩ := mem_reportOf_iff.1 hd
    obtain rfl := unusedMessage_injective hm
    exact ⟨rfl, hw⟩
  · obtain ⟨w, -, rfl⟩ := mem_reportOf_iff.1 hd
    exact absurd hm (undeclaredMessage_ne_unusedMessage w v)

theorem undeclared_of_mem {d : Diagnostic} (hd : d ∈ checkScenario scenario) {v : String}
    (hm : d.message = undeclaredMessage v) :
    d = diagnosticOf undeclaredMessage (placed scenario) v ∧ v ∈ (placed scenario).map (·.1) := by
  rw [checkScenario_eq, reportOfScenario, List.mem_append] at hd
  rcases hd with hd | hd
  · obtain ⟨w, -, rfl⟩ := mem_reportOf_iff.1 hd
    exact absurd hm.symm (undeclaredMessage_ne_unusedMessage v w)
  · obtain ⟨w, ⟨hw, -⟩, rfl⟩ := mem_reportOf_iff.1 hd
    obtain rfl := undeclaredMessage_injective hm
    exact ⟨rfl, hw⟩

/-- No variable that a text holds has the empty name. -/
theorem ne_empty_of_mem_placed {v : String} (h : v ∈ (placed scenario).map (·.1)) : v ≠ "" := by
  obtain ⟨s, hs, rfl⟩ := List.mem_map.1 h
  obtain ⟨passage, -, hs⟩ := List.mem_flatMap.1 hs
  obtain ⟨p, hp, rfl⟩ := List.mem_map.1 hs
  obtain ⟨_, name, _, -, -, ⟨hne, -, -⟩, -, rfl⟩ := mem_placeholders_iff.1 hp
  simpa using hne

end Scenario

/-- The cells of a header that have a value, each as a sighting of the variable it names. -/
def sightingsIn (header : Option TableRow) : List Sighting :=
  ((columnsOf header).map fun cell ↦ (cell.value.getD "", cell.location)).filter (·.1 ≠ "")

def headedIn (blocks : List Examples) : List Sighting :=
  blocks.flatMap fun examples ↦ sightingsIn examples.header

theorem headed_eq_headedIn (scenario : Scenario) :
    headed scenario = headedIn scenario.examples := by
  rw [headed, headerCells, List.map_flatMap, List.filter_flatMap]
  rfl

theorem headedIn_append (first second : List Examples) :
    headedIn (first ++ second) = headedIn first ++ headedIn second :=
  List.flatMap_append

theorem sightingsIn_withoutUnused (found : List Diagnostic) (examples : Examples) :
    sightingsIn (withoutUnused found examples).header =
      (sightingsIn examples.header).filter fun s ↦ ¬Names unusedMessage found s.1 := by
  unfold withoutUnused sightingsIn columnsOf
  cases examples.header with
  | none => rfl
  | some header =>
    dsimp only [Option.map_some, Option.getD_some]
    rw [List.filter_map, List.filter_map, List.filter_filter, List.filter_map, List.filter_filter]
    congr 1
    refine List.filter_congr fun cell _ ↦ ?_
    cases hv : cell.value <;> simp [hv, Bool.and_comm]

theorem headedIn_withoutUnused (found : List Diagnostic) (blocks : List Examples) :
    headedIn (blocks.map (withoutUnused found)) =
      (headedIn blocks).filter fun s ↦ ¬Names unusedMessage found s.1 := by
  rw [headedIn, List.flatMap_map, headedIn, List.filter_flatMap]
  simp only [sightingsIn_withoutUnused]

theorem mem_sightingsIn_iff {header : Option TableRow} {v : String} :
    v ∈ (sightingsIn header).map (·.1) ↔ v ≠ "" ∧ some v ∈ (columnsOf header).map (·.value) := by
  constructor
  · intro h
    obtain ⟨s, hs, rfl⟩ := List.mem_map.1 h
    obtain ⟨hs, hne⟩ := List.mem_filter.1 hs
    obtain ⟨cell, hcell, rfl⟩ := List.mem_map.1 hs
    have hne : cell.value.getD "" ≠ "" := of_decide_eq_true hne
    cases hvalue : cell.value with
    | none => simp [hvalue] at hne
    | some value =>
      rw [hvalue] at hne
      exact ⟨hne, List.mem_map.2 ⟨cell, hcell, hvalue⟩⟩
  · intro h
    obtain ⟨hne, hv⟩ := h
    obtain ⟨cell, hcell, hvalue⟩ := List.mem_map.1 hv
    refine List.mem_map.2 ⟨(v, cell.location), List.mem_filter.2 ⟨?_, decide_eq_true hne⟩, rfl⟩
    exact List.mem_map.2 ⟨cell, hcell, by rw [hvalue, Option.getD_some]⟩

theorem nodup_reportOf {message : String → String} (hm : Function.Injective message)
    (seen : List Sighting) (known : List String) : (reportOf message seen known).Nodup := by
  refine ((nodup_eraseDups _).filter _).map fun v w h ↦ hm ?_
  exact congrArg Diagnostic.message h

theorem nodup_checkScenario (scenario : Scenario) : (checkScenario scenario).Nodup := by
  rw [checkScenario_eq, reportOfScenario, List.nodup_append]
  refine ⟨nodup_reportOf unusedMessage_injective _ _,
    nodup_reportOf undeclaredMessage_injective _ _, fun d hd d' hd' ↦ ?_⟩
  obtain ⟨v, -, rfl⟩ := mem_reportOf_iff.1 hd
  obtain ⟨w, -, rfl⟩ := mem_reportOf_iff.1 hd'
  exact fun h ↦ undeclaredMessage_ne_unusedMessage w v (congrArg Diagnostic.message h).symm

section Repaired

variable {found : List Diagnostic} {scenario repaired : Scenario}

/-- The columns of a repaired outline are those of the outline that are not repaired, and among them
the new ones. -/
theorem IsRepair.headed_eq (h : IsRepair found scenario repaired) :
    ∃ front added back, headed repaired = front ++ added ++ back ∧
      ((headed scenario).filter fun s ↦ ¬Names unusedMessage found s.1) = front ++ back ∧
      ∀ v, v ∈ added.map (·.1) ↔ v ≠ "" ∧ Names undeclaredMessage found v := by
  obtain ⟨before, block, after, header, added, hexamples, rfl, hheader, -, hadded⟩ := h
  have hcells : sightingsIn header = sightingsIn (withoutUnused found block).header ++
      sightingsIn (some ⟨.unknown, added⟩) := by
    rw [sightingsIn, hheader, List.map_append, List.filter_append]
    rfl
  refine ⟨headedIn (before.map (withoutUnused found)) ++
      sightingsIn (withoutUnused found block).header, sightingsIn (some ⟨.unknown, added⟩),
    headedIn (after.map (withoutUnused found)), ?_, ?_, fun v ↦ ?_⟩
  · rw [headed_eq_headedIn, headedIn_append, headedIn, headedIn, List.flatMap_cons, hcells]
    simp only [List.append_assoc]
    rfl
  · rw [headed_eq_headedIn, hexamples, headedIn_withoutUnused, headedIn_withoutUnused,
      sightingsIn_withoutUnused, List.append_assoc, ← List.filter_append, ← List.filter_append,
      headedIn_append]
    rfl
  · rw [mem_sightingsIn_iff]
    change v ≠ "" ∧ some v ∈ added.map (·.value) ↔ _
    rw [hadded]
    simp

theorem IsRepair.placed_eq (h : IsRepair found scenario repaired) :
    placed repaired = placed scenario := by
  obtain ⟨before, block, after, header, added, -, rfl, -⟩ := h
  rfl

/-- A cell for each variable that is to be declared. -/
def newColumns (found : List Diagnostic) (scenario : Scenario) : List TableCell :=
  (((placed scenario).map (·.1)).eraseDups.filter (Names undeclaredMessage found)).map fun v ↦
    ⟨.unknown, some v⟩

theorem exists_isRepair (hne : scenario.examples ≠ []) (hfound : found ⊆ checkScenario scenario) :
    ∃ repaired, IsRepair found scenario repaired := by
  obtain ⟨block, after, hexamples⟩ := List.exists_cons_of_ne_nil hne
  have hvalues : (newColumns found scenario).map (·.value) =
      (((placed scenario).map (·.1)).eraseDups.filter
        (Names undeclaredMessage found)).map some := by
    rw [newColumns, List.map_map]
    rfl
  refine ⟨_, [], block, after,
    some ⟨.unknown, columnsOf (withoutUnused found block).header ++ newColumns found scenario⟩,
    newColumns found scenario, hexamples, rfl, rfl, ?_, fun value ↦ ?_⟩
  · rw [hvalues]
    exact ((nodup_eraseDups _).filter _).map fun _ _ ↦ Option.some.inj
  · rw [hvalues, List.mem_map]
    refine exists_congr fun v ↦ ?_
    rw [List.mem_filter, List.mem_eraseDups, decide_eq_true_iff, and_comm, eq_comm]
    refine and_congr_right fun _ ↦ and_iff_right_of_imp fun hnames ↦ ?_
    obtain ⟨d, hd, hm⟩ := hnames
    exact (undeclared_of_mem (hfound hd) hm).2

/-- What is reported of columns: nothing changes for those that are neither repaired nor new. -/
theorem IsRepair.unused_eq (h : IsRepair found scenario repaired)
    (hfound : found ⊆ checkScenario scenario) :
    reportOf unusedMessage (headed repaired) ((placed scenario).map (·.1)) =
      (reportOf unusedMessage (headed scenario) ((placed scenario).map (·.1))).filter
        (· ∉ found) := by
  obtain ⟨front, added, back, hrepaired, hkept, hadded⟩ := h.headed_eq
  have hnew : (added.filter fun s ↦ s.1 ∉ (placed scenario).map (·.1)) = [] := by
    refine List.filter_eq_nil_iff.2 fun s hs ↦ ?_
    obtain ⟨-, d, hd, hm⟩ := (hadded s.1).1 (List.mem_map_of_mem hs)
    simpa using (undeclared_of_mem (hfound hd) hm).2
  have hsame : ((headed repaired).filter fun s ↦ s.1 ∉ (placed scenario).map (·.1)) =
      ((headed scenario).filter fun s ↦ ¬Names unusedMessage found s.1).filter
        fun s ↦ s.1 ∉ (placed scenario).map (·.1) := by
    rw [hrepaired, hkept, List.filter_append, List.filter_append, hnew, List.append_nil,
      List.filter_append]
  rw [reportOf_unknown, hsame, ← reportOf_unknown,
    reportOf_filter _ _ _ fun v ↦ ¬Names unusedMessage found v,
    filter_reportOf fun d hd v hm ↦ (unused_of_mem (hfound hd) hm).1]
  simp only [decide_eq_true_eq]

/-- What is reported of placeholders: those that are repaired have columns, and no other one has
gained or lost its column. -/
theorem IsRepair.undeclared_eq (h : IsRepair found scenario repaired)
    (hfound : found ⊆ checkScenario scenario) :
    reportOf undeclaredMessage (placed scenario) ((headed repaired).map (·.1)) =
      (reportOf undeclaredMessage (placed scenario) ((headed scenario).map (·.1))).filter
        (· ∉ found) := by
  obtain ⟨front, added, back, hrepaired, hkept, hadded⟩ := h.headed_eq
  have hmem (v : String) : v ∈ (headed repaired).map (·.1) ↔
      v ∈ (front ++ back).map (·.1) ∨ v ≠ "" ∧ Names undeclaredMessage found v := by
    rw [← hadded, hrepaired]
    simp only [List.map_append, List.mem_append]
    tauto
  rw [filter_reportOf fun d hd v hm ↦ (undeclared_of_mem (hfound hd) hm).1, reportOf]
  congr 1
  refine List.filter_congr fun v hv ↦ decide_eq_decide.2 ?_
  have hplaced : v ∈ (placed scenario).map (·.1) := List.mem_eraseDups.1 hv
  have hused : ¬Names unusedMessage found v := by
    intro hnames
    obtain ⟨d, hd, hm⟩ := hnames
    exact (unused_of_mem (hfound hd) hm).2 hplaced
  have hnames : ((headed scenario).map (·.1)).filter (fun v ↦ ¬Names unusedMessage found v) =
      ((headed scenario).filter fun s ↦ ¬Names unusedMessage found s.1).map (·.1) := List.filter_map
  have hkeeps : v ∈ (front ++ back).map (·.1) ↔ v ∈ (headed scenario).map (·.1) := by
    rw [← hkept, ← hnames, List.mem_filter, and_iff_left (decide_eq_true hused)]
  rw [hmem, hkeeps, and_iff_right (ne_empty_of_mem_placed hplaced), not_or, and_comm]

/-- After a repair of any of its diagnostics, an outline has exactly the others, in the same order
and at the same places. Each diagnostic is reported once, and every choice of them has a repair. -/
theorem checkScenario_repaired (hne : scenario.examples ≠ [])
    (hfound : found ⊆ checkScenario scenario) :
    (checkScenario scenario).Nodup ∧
    (∃ repaired, IsRepair found scenario repaired) ∧
    ∀ repaired, IsRepair found scenario repaired →
      checkScenario repaired = (checkScenario scenario).filter (· ∉ found) ∧
      (checkScenario scenario ⊆ found → checkScenario repaired = []) := by
  refine ⟨nodup_checkScenario scenario, exists_isRepair hne hfound, fun repaired h ↦ ?_⟩
  have hrest : checkScenario repaired = (checkScenario scenario).filter (· ∉ found) := by
    rw [checkScenario_eq, reportOfScenario, h.placed_eq, h.unused_eq hfound, h.undeclared_eq hfound,
      ← List.filter_append, checkScenario_eq, reportOfScenario]
  refine ⟨hrest, fun hall ↦ ?_⟩
  rw [hrest, List.filter_eq_nil_iff]
  exact fun d hd ↦ by simpa using hall hd

end Repaired

/-- An outline with a column that two of its blocks have in vain, a block without a header between
them, and two placeholders that no column declares. -/
def basket : Scenario where
  location := ⟨2, some 3⟩
  keyword := "Scenario Outline"
  name := "from <start>"
  steps := [⟨⟨3, some 5⟩, "When ", "I eat <eat> of <kind>", none⟩]
  examples :=
    [⟨⟨5, some 5⟩, "Examples", "",
        some ⟨⟨6, some 7⟩, [⟨⟨6, some 9⟩, some "eat"⟩, ⟨⟨6, some 15⟩, some "left"⟩,
          ⟨⟨6, some 22⟩, some "seed"⟩]⟩, []⟩,
      ⟨⟨8, some 5⟩, "Examples", "empty", none, []⟩,
      ⟨⟨10, some 5⟩, "Examples", "", some ⟨⟨11, some 7⟩, [⟨⟨11, some 9⟩, some "left"⟩]⟩, []⟩]

def basketFound : List Diagnostic :=
  [⟨undeclaredMessage "kind", name, 3, 25⟩, ⟨unusedMessage "left", name, 11, 9⟩]

def repairedBasket : Scenario :=
  { basket with examples :=
      [⟨⟨5, some 5⟩, "Examples", "",
          some ⟨⟨6, some 7⟩, [⟨⟨6, some 9⟩, some "eat"⟩, ⟨⟨6, some 22⟩, some "seed"⟩]⟩, []⟩,
        ⟨⟨8, some 5⟩, "Examples", "empty",
          some ⟨⟨9, some 7⟩, [⟨⟨9, some 9⟩, some "kind"⟩]⟩, []⟩,
        ⟨⟨10, some 5⟩, "Examples", "", some ⟨⟨11, some 7⟩, []⟩, []⟩] }

theorem isRepair_basket : IsRepair basketFound basket repairedBasket := by
  refine ⟨[_], _, [_], some ⟨⟨9, some 7⟩, [⟨⟨9, some 9⟩, some "kind"⟩]⟩,
    [⟨⟨9, some 9⟩, some "kind"⟩], rfl, ?_, rfl, List.nodup_singleton _, fun value ↦ ?_⟩
  · decide +kernel
  constructor
  · intro h
    obtain rfl := List.mem_singleton.1 h
    exact ⟨"kind", rfl, _, List.mem_cons_self, rfl⟩
  · intro h
    obtain ⟨v, rfl, d, hd, hm⟩ := h
    rcases List.mem_cons.1 hd with rfl | hd
    · obtain rfl := undeclaredMessage_injective hm
      exact List.mem_singleton_self _
    · obtain rfl := List.mem_singleton.1 hd
      exact absurd hm.symm (undeclaredMessage_ne_unusedMessage v "left")

theorem checkScenario_repaired_basket :
    basket.examples ≠ [] ∧ basketFound ⊆ checkScenario basket ∧
      IsRepair basketFound basket repairedBasket ∧
      checkScenario repairedBasket =
        [⟨unusedMessage "seed", name, 6, 22⟩, ⟨undeclaredMessage "start", name, 2, 26⟩] := by
  have hne : basket.examples ≠ [] := List.cons_ne_nil _ _
  have hfound : basketFound ⊆ checkScenario basket := by decide +kernel
  have hrest := ((checkScenario_repaired hne hfound).2.2 _ isRepair_basket).1
  refine ⟨hne, hfound, isRepair_basket, hrest.trans ?_⟩
  decide +kernel

end GherkinLint.UnusedVariables
