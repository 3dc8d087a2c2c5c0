import GherkinLint.Document.Decode

namespace GherkinLint.Message

theorem part_eq {α : Type} (read : Members Data → Except MessageFault α) (key : String)
    (members : Members Data) :
    part read key members =
      match members.lookup key with
      | some d => if d.isEmpty then pure none else some <$> item read d
      | none => pure none := by
  unfold part
  cases members.lookup key with
  | none => rfl
  | some d => cases d <;> rfl

theorem part_of_object {α : Type} {read : Members Data → Except MessageFault α} {key : String}
    {members inner : Members Data} (h : members.lookup key = some (.object inner))
    (hne : inner ≠ []) : part read key members = some <$> read inner := by
  have hfilled : (Data.object inner).isEmpty = false := by simpa [Data.isEmpty] using hne
  rw [part_eq, h]
  dsimp only
  rw [hfilled]
  rfl

def group (members : Members Data) : Except MessageFault (Group Child) := do
  let location ← location members
  let children ← list child "children" members
  pure ⟨location, text "keyword" "" members, text "name" "" members, children⟩

def childNode (members : Members Data) : Except MessageFault Child := do
  let scenario ← part scenario "scenario" members
  let background ← part background "background" members
  let group ← part group "rule" members
  pure (.mk scenario background group)

theorem childList_eq (items : List Data) : childList items = items.mapM child := by
  induction items with
  | nil => rfl
  | cons d items ih => rw [childList, ih, List.mapM_cons]

theorem childrenOf_eq (d : Data) : childrenOf d = listOf child d := by
  cases d with
  | list items => exact childList_eq items
  | null | bool | int | fraction | moment | text | object => rfl

theorem childrenIn_eq (members : Members Data) :
    childrenIn members = list child "children" members := by
  induction members with
  | nil => rfl
  | cons first members ih =>
    obtain ⟨key, d⟩ := first
    rw [childrenIn, ih, list, list, List.lookup_cons]
    by_cases h : key = "children"
    · simp [h, childrenOf_eq]
    · have hne : ("children" == key) = false := by simpa using Ne.symm h
      simp [h, hne]

theorem groupOf_object (members : Members Data) :
    groupOf (.object members) = if members.isEmpty then pure none else some <$> group members := by
  rw [groupOf, group, childrenIn_eq]
  split
  · rfl
  · simp only [map_bind, map_pure]

theorem groupIn_eq (members : Members Data) : groupIn members = part group "rule" members := by
  induction members with
  | nil => rfl
  | cons first members ih =>
    obtain ⟨key, d⟩ := first
    rw [groupIn, ih, part, part, List.lookup_cons]
    by_cases h : key = "rule"
    · subst h
      simp only [if_true, BEq.rfl]
      cases d with
      | object inner => exact groupOf_object inner
      | null | bool | int | fraction | moment | text | list => rfl
    · have hne : ("rule" == key) = false := by simpa using Ne.symm h
      simp [h, hne]

theorem child_eq : child = item childNode := by
  funext d
  cases d with
  | object members => rw [child, groupIn_eq, item, childNode]
  | null | bool | int | fraction | moment | text | list => rfl

theorem feature_eq (members : Members Data) :
    feature members = (do
      let location ← location members
      let children ← list (item childNode) "children" members
      pure ⟨location, text "keyword" "" members, text "name" "" members,
        text "language" "en" members, children⟩) := by
  rw [feature, childrenIn_eq, child_eq]

end GherkinLint.Message
