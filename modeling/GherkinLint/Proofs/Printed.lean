import GherkinLint.Rule
import Mathlib

namespace GherkinLint

namespace Text

def cut (mark : Char) (s : List Char) : List Char × List Char :=
  (s.takeWhile (· ≠ mark), (s.dropWhile (· ≠ mark)).tail)

theorem cut_append {mark : Char} {s : List Char} (h : mark ∉ s) (rest : List Char) :
    cut mark (s ++ mark :: rest) = (s, rest) := by
  have hs : ∀ c ∈ s, decide (c ≠ mark) = true := by
    intro c hc
    apply decide_eq_true
    rintro rfl
    exact h hc
  rw [cut, List.takeWhile_append_of_pos hs, List.dropWhile_append_of_pos hs]
  simp

theorem not_mem_toString {c : Char} (hdigit : c.isDigit = false) (hminus : c ≠ '-') (n : Int) :
    c ∉ (toString n).toList := by
  have hrepr (k : Nat) : c ∉ k.repr.toList := by
    intro hc
    rw [Nat.toList_repr] at hc
    have hdigits : c.isDigit = true := Nat.isDigit_of_mem_toDigits (by decide) (by decide) hc
    cases hdigit.symm.trans hdigits
  rw [Int.toString_eq_repr, Int.repr_eq_if]
  split
  · exact hrepr _
  · intro hc
    rw [String.toList_append, List.mem_append] at hc
    rcases hc with hc | hc
    · exact hminus (List.mem_singleton.1 hc)
    · exact hrepr _ hc

end Text

namespace Diagnostic

/-- Reads what was printed of a diagnostic for this path. -/
def read? (path text : String) : Option Diagnostic := do
  let (line, s) := Text.cut ':' (text.toList.drop (path.length + 1))
  let (column, s) := Text.cut ':' s
  -- The message may hold brackets, so that only the last one is sure to open the rule.
  let (rule, s) := Text.cut '[' s.reverse
  some {
    message := String.ofList s.tail.reverse.tail
    rule := String.ofList rule.tail.reverse
    line := ← (String.ofList line).toInt?
    column := ← (String.ofList column).toInt? }

theorem read?_render (path : String) {d : Diagnostic} (h : '[' ∉ d.rule.toList) :
    read? path (d.render path) = some d := by
  have hline : ':' ∉ (toString d.line).toList := Text.not_mem_toString rfl (by decide) _
  have hcolumn : ':' ∉ (toString d.column).toList := Text.not_mem_toString rfl (by decide) _
  have hrule : '[' ∉ ']' :: d.rule.toList.reverse := by simpa using h
  have hbehind : (d.render path).toList.drop (path.length + 1) =
      (toString d.line).toList ++ ':' :: ((toString d.column).toList ++
        ':' :: ' ' :: (d.message.toList ++ ' ' :: '[' :: (d.rule.toList ++ [']']))) := by
    have htext : (d.render path).toList = (path.toList ++ [':']) ++
        ((toString d.line).toList ++ ':' :: ((toString d.column).toList ++
          ':' :: ' ' :: (d.message.toList ++ ' ' :: '[' :: (d.rule.toList ++ [']'])))) := by
      simp [render]
    rw [htext]
    apply List.drop_left'
    rw [List.length_append, String.length_toList, List.length_singleton]
  have hback : (' ' :: (d.message.toList ++ ' ' :: '[' :: (d.rule.toList ++ [']']))).reverse =
      (']' :: d.rule.toList.reverse) ++ '[' :: ' ' :: (d.message.toList.reverse ++ [' ']) := by
    simp
  rw [read?, hbehind, Text.cut_append hline]
  dsimp only
  rw [Text.cut_append hcolumn]
  dsimp only
  rw [hback, Text.cut_append hrule]
  dsimp only
  simp [Int.toString_eq_repr, Int.toInt?_repr]

theorem render_injective (path : String) {d e : Diagnostic} (hd : '[' ∉ d.rule.toList)
    (he : '[' ∉ e.rule.toList) (h : d.render path = e.render path) : d = e := by
  have hread := read?_render path he
  rw [← h, read?_render path hd] at hread
  exact Option.some.inj hread

end Diagnostic

end GherkinLint
