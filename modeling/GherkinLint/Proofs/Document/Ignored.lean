import GherkinLint.Proofs.Document.Course
import GherkinLint.Proofs.Members
import Mathlib.Data.Option.Basic
import Mathlib.Logic.Relation

namespace GherkinLint.Message

def Kind.asksFor (kind : Kind) (key : String) : Bool :=
  key ∈ kind.scalars || kind.slots.any (·.key = key)

/-- What is expected of a value from where it stands in a message. -/
inductive Place where
  | node (kind : Kind)
  | nodes (kind : Kind)
  /-- Nothing is read of the value. -/
  | beside
  deriving DecidableEq, Repr

def Slot.place : Slot → Place
  | one _ kind => .node kind
  | many _ kind => .nodes kind

namespace Place

/-- The keys of an object in this place. One that stands for a list is not asked for any. -/
def asksFor : Place → String → Bool
  | node kind => kind.asksFor
  | nodes _ | beside => fun _ ↦ false

def item : Place → Place
  | nodes kind => node kind
  | node _ | beside => beside

end Place

/-- One change of a value in its place, in any object or list inside it. -/
inductive Change : Place → Data → Data → Prop
  | permuted {place : Place} {members others : Members Data} :
      members.names.Nodup → members.Perm others → Change place (.object members) (.object others)
  | unread {place : Place} {members others : Members Data} :
      members ≠ [] → others ≠ [] →
      members.filter (place.asksFor ·.1) = others.filter (place.asksFor ·.1) →
      Change place (.object members) (.object others)
  | member {kind : Kind} {slot : Slot} {old new : Data} (before after : Members Data) :
      slot ∈ kind.slots → Change slot.place old new →
      Change (.node kind) (.object (before ++ (slot.key, old) :: after))
        (.object (before ++ (slot.key, new) :: after))
  | item {place : Place} {old new : Data} (before after : List Data) :
      Change place.item old new →
      Change place (.list (before ++ old :: after)) (.list (before ++ new :: after))

abbrev Kind.Node : Kind → Type
  | document => Document
  | comment => String
  | feature => Feature
  | child => Child
  | group => Group Child
  | background => Background
  | scenario => Scenario
  | examples => Examples
  | step => Step
  | dataTable => DataTable
  | docString => DocString
  | row => TableRow
  | cell => TableCell
  | location => Location

def Kind.read (uri : String) : (kind : Kind) → Members Data → Except MessageFault kind.Node
  | document => fun members ↦ Document.ofMessage uri (.object members)
  | comment => Message.comment
  | feature => Message.feature
  | child => childNode
  | group => Message.group
  | background => Message.background
  | scenario => Message.scenario
  | examples => Message.examples
  | step => Message.step
  | dataTable => Message.dataTable
  | docString => Message.docString
  | row => tableRow
  | cell => tableCell
  | location => fun members ↦
    pure ⟨((members.lookup "line").bind Data.int?).getD 0, (members.lookup "column").bind Data.int?⟩

/-- Two values that cannot be told apart in their place. -/
def Place.Alike (uri : String) : Place → Data → Data → Prop
  | node kind, d, d' =>
    d.isEmpty = d'.isEmpty ∧ Message.item (kind.read uri) d = Message.item (kind.read uri) d'
  | nodes kind, d, d' =>
    listOf (Message.item (kind.read uri)) d = listOf (Message.item (kind.read uri)) d'
  | beside, _, _ => True

theorem Place.Alike.refl (uri : String) (place : Place) (d : Data) : place.Alike uri d d := by
  cases place with
  | node kind => exact ⟨rfl, rfl⟩
  | nodes kind => rfl
  | beside => trivial

section Congruence

variable {uri : String} {kind : Kind} {members others : Members Data}

def Slot.Same (uri : String) (members others : Members Data) : Slot → Prop
  | one key kind => part (kind.read uri) key members = part (kind.read uri) key others
  | many key kind =>
    list (item (kind.read uri)) key members = list (item (kind.read uri)) key others

theorem Slot.same_of_rel {slot : Slot}
    (h : Option.Rel (slot.place.Alike uri) (members.lookup slot.key) (others.lookup slot.key)) :
    slot.Same uri members others := by
  cases slot with
  | one key kind =>
    rw [Same, part_eq, part_eq]
    change Option.Rel _ (members.lookup key) (others.lookup key) at h
    generalize members.lookup key = found, others.lookup key = found' at h
    cases h with
    | none => rfl
    | some h => simp only [h.1, h.2]
  | many key kind =>
    rw [Same, list, list]
    change Option.Rel _ (members.lookup key) (others.lookup key) at h
    generalize members.lookup key = found, others.lookup key = found' at h
    cases h with
    | none => rfl
    | some h => exact h

/-- A node is read from its scalars and its slots. -/
theorem read_congr (hscalars : ∀ key ∈ kind.scalars, members.lookup key = others.lookup key)
    (hslots : ∀ slot ∈ kind.slots, slot.Same uri members others) :
    kind.read uri members = kind.read uri others := by
  have htext : ∀ key ∈ kind.scalars, ∀ absent,
      text key absent members = text key absent others := by
    intro key hkey absent
    rw [text, text, hscalars key hkey]
  have hlocation (h : .one "location" .location ∈ kind.slots) :
      location members = location others := by
    have hplace : (Slot.one "location" .location).Same uri members others := hslots _ h
    exact congrArg (· >>= fun found ↦ pure (found.getD .unknown)) hplace
  cases kind <;>
    simp only [Kind.scalars, Kind.slots, List.forall_mem_cons, List.not_mem_nil, false_imp_iff,
      implies_true, and_true, Slot.Same] at hscalars hslots htext <;>
    simp only [Kind.read] at hslots ⊢
  case document => simp only [Document.ofMessage, htext, hslots]
  case comment => simp only [comment, htext]
  case feature => simp only [feature_eq, hlocation (by decide), htext, hslots]
  case child => simp only [childNode, hslots]
  case group => simp only [group, child_eq, hlocation (by decide), htext, hslots]
  case background => simp only [background, hlocation (by decide), htext, hslots]
  case scenario => simp only [scenario, hlocation (by decide), htext, hslots]
  case examples => simp only [examples, hlocation (by decide), htext, hslots]
  case step => simp only [step, hlocation (by decide), htext, hslots]
  case dataTable => simp only [dataTable, hlocation (by decide), hslots]
  case docString => simp only [docString, hlocation (by decide), htext]
  case row => simp only [tableRow, hlocation (by decide), hslots]
  case cell => simp only [tableCell, hlocation (by decide), hscalars]
  case location => simp only [hscalars]

end Congruence

section Changes

variable {uri : String} {place : Place} {kind : Kind} {old new : Data}
  {members others : Members Data}

theorem rel_of_eq {found other : Option Data} (h : found = other) :
    Option.Rel (place.Alike uri) found other := by
  subst h
  cases found with
  | none => exact .none
  | some d => exact .some (.refl uri place d)

theorem asksFor_iff {key : String} :
    kind.asksFor key = true ↔ key ∈ kind.scalars ∨ ∃ slot ∈ kind.slots, slot.key = key := by
  simp [Kind.asksFor]

theorem Kind.key_not_mem_scalars {slot : Slot} (h : slot ∈ kind.slots) :
    slot.key ∉ kind.scalars := by
  revert h
  revert slot
  cases kind <;> decide

theorem Kind.eq_of_key_eq {slot other : Slot} (h : slot ∈ kind.slots) (hother : other ∈ kind.slots)
    (hkey : slot.key = other.key) : slot = other := by
  have hkeys : ∀ kind : Kind, (kind.slots.map Slot.key).Nodup := by
    intro kind
    cases kind <;> decide
  exact List.inj_on_of_nodup_map (hkeys kind) h hother hkey

/-- An object is known by whether it has members, and by those that it is asked for. -/
theorem alike_object (hempty : members = [] ↔ others = [])
    (hlookup : ∀ key, place.asksFor key = true → members.lookup key = others.lookup key) :
    place.Alike uri (.object members) (.object others) := by
  have hempty : members.isEmpty = others.isEmpty := by
    rw [Bool.eq_iff_iff, List.isEmpty_iff, List.isEmpty_iff, hempty]
  cases place with
  | node kind =>
    refine ⟨hempty, ?_⟩
    apply read_congr
    · intro key hkey
      exact hlookup key (asksFor_iff.2 (.inl hkey))
    · intro slot hslot
      apply Slot.same_of_rel
      apply rel_of_eq
      exact hlookup slot.key (asksFor_iff.2 (.inr ⟨slot, hslot, rfl⟩))
  | nodes kind =>
    simp only [Place.Alike, listOf, hempty]
  | beside => trivial

/-- A node with another value under the key of a slot. -/
theorem alike_member {slot : Slot} (before after : Members Data) (hslot : slot ∈ kind.slots)
    (h : slot.place.Alike uri old new) :
    (Place.node kind).Alike uri (.object (before ++ (slot.key, old) :: after))
      (.object (before ++ (slot.key, new) :: after)) := by
  refine ⟨by cases before <;> rfl, ?_⟩
  apply read_congr
  · intro key hkey
    have hne : key ≠ slot.key := by
      rintro rfl
      exact Kind.key_not_mem_scalars hslot hkey
    simp only [Members.lookup_between, if_neg hne]
  · intro other hother
    apply Slot.same_of_rel
    simp only [Members.lookup_between]
    by_cases hkey : other.key = slot.key
    · obtain rfl := Kind.eq_of_key_eq hother hslot hkey
      -- A member before it that has the same key is found in both objects.
      cases before.lookup other.key with
      | none => simpa using h
      | some d => exact rel_of_eq rfl
    · apply rel_of_eq
      rw [if_neg hkey, if_neg hkey]

theorem alike_item (before after : List Data) (h : place.item.Alike uri old new) :
    place.Alike uri (.list (before ++ old :: after)) (.list (before ++ new :: after)) := by
  cases place with
  | node kind =>
    -- A list in the place of a node is a fault, whatever its items are.
    refine ⟨?_, rfl⟩
    cases before <;> rfl
  | nodes kind =>
    have hitem : item (kind.read uri) old = item (kind.read uri) new := h.2
    unfold Place.Alike
    simp only [listOf, List.mapM_append, List.mapM_cons, hitem]
  | beside => trivial

theorem alike_of_change (h : Change place old new) : place.Alike uri old new := by
  induction h with
  | permuted hnames hperm =>
    refine alike_object ?_ fun key _ ↦ Members.lookup_eq_of_perm hnames hperm key
    rw [← List.length_eq_zero_iff, hperm.length_eq, List.length_eq_zero_iff]
  | unread hmembers hothers hfilter =>
    refine alike_object (iff_of_false hmembers hothers) fun key hkey ↦ ?_
    rw [← Members.lookup_filter hkey, hfilter, Members.lookup_filter hkey]
  | member before after hslot _ ih => exact alike_member before after hslot ih
  | item before after _ ih => exact alike_item before after ih

theorem ofMessage_eq_of_change (h : Change (.node .document) old new) :
    Document.ofMessage uri old = Document.ofMessage uri new := by
  have hread (d : Data) : Document.ofMessage uri d = item (Kind.document.read uri) d := by
    cases d <;> rfl
  rw [hread, hread]
  exact (alike_of_change h).2

end Changes

/-- A reading sees only the members that it asks for: any number of changes elsewhere, in any
objects of the message, leave the document as it is, and the fault where there is no document. -/
theorem ofMessage_ignores (uri : String) {old new : Data}
    (h : Relation.ReflTransGen (Change (.node .document)) old new) :
    Document.ofMessage uri old = Document.ofMessage uri new := by
  induction h with
  | refl => rfl
  | tail _ hchange ih => exact ih.trans (ofMessage_eq_of_change hchange)

/-- A message with some members in its scenario, and a value in the place of its comments. -/
def basket (members : Members Data) (comments : Data) : Data :=
  .object [("feature", .object [("children", .list [.object [("scenario", .object members)]])]),
    ("comments", comments)]

theorem change_basket {members others : Members Data} (comments : Data)
    (h : Change (.node .scenario) (.object members) (.object others)) :
    Change (.node .document) (basket members comments) (basket others comments) := by
  have hchild : Change (.node .child) (.object [("scenario", .object members)])
      (.object [("scenario", .object others)]) :=
    .member [] [] (by decide : .one "scenario" .scenario ∈ Kind.child.slots) h
  have hchildren : Change (.nodes .child) (.list [.object [("scenario", .object members)]])
      (.list [.object [("scenario", .object others)]]) := .item [] [] hchild
  have hfeature : Change (.node .feature)
      (.object [("children", .list [.object [("scenario", .object members)]])])
      (.object [("children", .list [.object [("scenario", .object others)]])]) :=
    .member [] [] (by decide : .many "children" .child ∈ Kind.feature.slots) hchildren
  exact .member [] [_] (by decide : .one "feature" .feature ∈ Kind.document.slots) hfeature

/-- A scenario with other members than it is asked for, and comments that are an object. -/
theorem ofMessage_ignores_basket :
    Document.ofMessage "" (basket [("name", .text "Pay"), ("keyword", .text "Scenario"),
        ("id", .text "7")] (.list [])) =
      Document.ofMessage "" (basket [("keyword", .text "Scenario"), ("tags", .list []),
        ("name", .text "Pay")] (.list [])) ∧
    Document.ofMessage "" (basket [("id", .text "7")] (.object [("line", .int 1)])) =
      Document.ofMessage "" (basket [("id", .text "7")] (.object [("text", .text "")])) := by
  constructor
  · have hswap : Change (.node .scenario)
        (.object [("name", .text "Pay"), ("keyword", .text "Scenario"), ("id", .text "7")])
        (.object [("keyword", .text "Scenario"), ("name", .text "Pay"), ("id", .text "7")]) :=
      .permuted (by decide) (.swap _ _ _)
    have htags : Change (.node .scenario)
        (.object [("keyword", .text "Scenario"), ("name", .text "Pay"), ("id", .text "7")])
        (.object [("keyword", .text "Scenario"), ("tags", .list []), ("name", .text "Pay")]) :=
      .unread (by simp) (by simp) (by rfl)
    exact ofMessage_ignores "" (.tail (.single (change_basket _ hswap)) (change_basket _ htags))
  · have hcomments : Change (.nodes .comment) (.object [("line", .int 1)])
        (.object [("text", .text "")]) := .unread (by simp) (by simp) (by rfl)
    refine ofMessage_ignores "" (.single ?_)
    exact .member [_] [] (by decide : .many "comments" .comment ∈ Kind.document.slots) hcomments

end GherkinLint.Message
