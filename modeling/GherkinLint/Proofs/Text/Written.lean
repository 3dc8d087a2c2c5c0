import GherkinLint.Text.Blank
import GherkinLint.Text.Utf8
import Mathlib.Data.List.Basic

namespace GherkinLint.Text

namespace Utf8

theorem lead?_one : ∀ n < 128, lead? (UInt8.ofNat n) = some ⟨0, 0, 0, n⟩ := by decide

theorem lead?_two : ∀ n < 32, 2 ≤ n →
    lead? (UInt8.ofNat (n + 192)) = some ⟨1, 0x80, 0xBF, n⟩ := by decide

theorem lead?_three : ∀ n < 16, lead? (UInt8.ofNat (n + 224)) =
    some ⟨2, if n = 0 then 0xA0 else 0x80, if n = 13 then 0x9F else 0xBF, n⟩ := by decide

theorem lead?_four : ∀ n < 5, lead? (UInt8.ofNat (n + 240)) =
    some ⟨3, if n = 0 then 0x90 else 0x80, if n = 4 then 0x8F else 0xBF, n⟩ := by decide

/-- A byte that continues a character gives six bits of its code point. -/
theorem complete_cons {more code d v : Nat} {low high : UInt8} (hd : d < 64)
    (hlow : low.toNat ≤ d + 128) (hhigh : d + 128 ≤ high.toNat) {s : List UInt8}
    (h : complete more 0x80 0xBF (code * 64 + d) s = .ok v) :
    complete (more + 1) low high code (UInt8.ofNat (d + 128) :: s) = .ok v := by
  have hbyte : (UInt8.ofNat (d + 128)).toNat = d + 128 :=
    UInt8.toNat_ofNat_of_lt' (by simp only [UInt8.size]; omega)
  have hwithin : low ≤ UInt8.ofNat (d + 128) ∧ UInt8.ofNat (d + 128) ≤ high := by
    rw [UInt8.le_iff_toNat_le, UInt8.le_iff_toNat_le, hbyte]
    exact ⟨hlow, hhigh⟩
  rw [complete, if_pos hwithin, hbyte, Nat.add_sub_cancel, h]
  rfl

theorem complete_next {more code d v : Nat} (hd : d < 64) {s : List UInt8}
    (h : complete more 0x80 0xBF (code * 64 + d) s = .ok v) :
    complete (more + 1) 0x80 0xBF code (UInt8.ofNat (d + 128) :: s) = .ok v := by
  apply complete_cons hd _ _ h
  · change 128 ≤ d + 128
    omega
  · change d + 128 ≤ 191
    omega

/-- The bytes are one character: the first of them says how many follow it, and those complete the
code point, whatever comes after them. -/
def Spells (bytes : List UInt8) (v : Nat) : Prop :=
  ∃ b rest lead, bytes = b :: rest ∧ lead? b = some lead ∧ rest.length = lead.more ∧
    ∀ s, complete lead.more lead.low lead.high lead.code (rest ++ s) = .ok v

theorem spells_one {v : Nat} (hv : v < 0x80) : Spells [UInt8.ofNat v] v :=
  ⟨_, _, _, rfl, lead?_one v hv, rfl, fun _ ↦ rfl⟩

theorem spells_two {v : Nat} (hlow : 0x80 ≤ v) (hv : v < 0x800) :
    Spells [UInt8.ofNat (v / 64 % 32 + 192), UInt8.ofNat (v % 64 + 128)] v := by
  have hcode : v / 64 % 32 * 64 + v % 64 = v := by omega
  refine ⟨_, _, _, rfl, lead?_two (v / 64 % 32) (by omega) (by omega), rfl, fun s ↦ ?_⟩
  apply complete_next (by omega)
  rw [complete, hcode]

/-- Three bytes are the shortest form from 0x800 on, and a surrogate is no character. -/
theorem spells_three {v : Nat} (hlow : 0x800 ≤ v) (hv : v < 0x10000)
    (hvalid : v < 0xD800 ∨ 0xDFFF < v) :
    Spells [UInt8.ofNat (v / 4096 % 16 + 224), UInt8.ofNat (v / 64 % 64 + 128),
      UInt8.ofNat (v % 64 + 128)] v := by
  have hfrom : (if v / 4096 % 16 = 0 then 0xA0 else 0x80 : UInt8).toNat ≤ v / 64 % 64 + 128 := by
    split
    · change 160 ≤ _
      omega
    · change 128 ≤ _
      omega
  have hto : v / 64 % 64 + 128 ≤ (if v / 4096 % 16 = 13 then 0x9F else 0xBF : UInt8).toNat := by
    split
    · change _ ≤ 159
      omega
    · change _ ≤ 191
      omega
  have hcode : (v / 4096 % 16 * 64 + v / 64 % 64) * 64 + v % 64 = v := by omega
  refine ⟨_, _, _, rfl, lead?_three (v / 4096 % 16) (by omega), rfl, fun s ↦ ?_⟩
  apply complete_cons (by omega) hfrom hto
  apply complete_next (by omega)
  rw [complete, hcode]

/-- Four bytes are the shortest form from 0x10000 on, and the last code point is 0x10FFFF. -/
theorem spells_four {v : Nat} (hlow : 0x10000 ≤ v) (hv : v < 0x110000) :
    Spells [UInt8.ofNat (v / 262144 % 8 + 240), UInt8.ofNat (v / 4096 % 64 + 128),
      UInt8.ofNat (v / 64 % 64 + 128), UInt8.ofNat (v % 64 + 128)] v := by
  have hfrom : (if v / 262144 % 8 = 0 then 0x90 else 0x80 : UInt8).toNat ≤
      v / 4096 % 64 + 128 := by
    split
    · change 144 ≤ _
      omega
    · change 128 ≤ _
      omega
  have hto : v / 4096 % 64 + 128 ≤ (if v / 262144 % 8 = 4 then 0x8F else 0xBF : UInt8).toNat := by
    split
    · change _ ≤ 143
      omega
    · change _ ≤ 191
      omega
  have hcode : ((v / 262144 % 8 * 64 + v / 4096 % 64) * 64 + v / 64 % 64) * 64 + v % 64 = v := by
    omega
  refine ⟨_, _, _, rfl, lead?_four (v / 262144 % 8) (by omega), rfl, fun s ↦ ?_⟩
  apply complete_cons (by omega) hfrom hto
  apply complete_next (by omega)
  apply complete_next (by omega)
  rw [complete, hcode]

theorem spells_utf8EncodeChar (c : Char) : Spells (String.utf8EncodeChar c) c.toNat := by
  change Spells _ c.val.toNat
  have hvalid : c.val.toNat < 0xD800 ∨ 0xDFFF < c.val.toNat ∧ c.val.toNat < 0x110000 := c.valid
  unfold String.utf8EncodeChar
  dsimp only
  split
  · exact spells_one (by omega)
  split
  · exact spells_two (by omega) (by omega)
  split
  · exact spells_three (by omega) (by omega) (by omega)
  · exact spells_four (by omega) (by omega)

theorem decodeFrom_append (position : Nat) (read bytes : List UInt8) :
    decodeFrom position read.length (read ++ bytes) =
      decodeFrom (position + read.length) 0 bytes := by
  induction read generalizing position with
  | nil => rfl
  | cons b read ih =>
    rw [List.length_cons, List.cons_append, decodeFrom, ih, Nat.add_right_comm, Nat.add_assoc]

theorem decodeFrom_encode (position : Nat) (s : List Char) :
    decodeFrom position 0 (encode s) = .ok s := by
  induction s generalizing position with
  | nil => rfl
  | cons c s ih =>
    obtain ⟨b, rest, lead, hbytes, hlead, hmore, hcomplete⟩ := spells_utf8EncodeChar c
    rw [encode, List.flatMap_cons, hbytes, List.cons_append, ← encode, decodeFrom, hlead]
    dsimp only
    rw [hcomplete, ← hmore]
    dsimp only
    rw [decodeFrom_append, ih, Char.ofNat_toNat]
    rfl

theorem decode_encode (s : List Char) : decode (encode s) = .ok s := decodeFrom_encode 0 s

end Utf8

/-- How the ends of lines are written. -/
inductive LineEnd where
  | lf
  | crlf
  | cr
  deriving DecidableEq, Repr

def LineEnd.chars : LineEnd → List Char
  | lf => ['\n']
  | crlf => ['\r', '\n']
  | cr => ['\r']

def LineEnd.written (ends : LineEnd) (s : List Char) : List Char :=
  s.flatMap fun c ↦ if c = '\n' then ends.chars else [c]

theorem LineEnd.written_newline (ends : LineEnd) (s : List Char) :
    ends.written ('\n' :: s) = ends.chars ++ ends.written s := rfl

theorem LineEnd.written_cons (ends : LineEnd) {c : Char} (hc : c ≠ '\n') (s : List Char) :
    ends.written (c :: s) = c :: ends.written s := by
  rw [written, List.flatMap_cons, if_neg hc]
  rfl

theorem LineEnd.written_lf (s : List Char) : lf.written s = s := by
  induction s with
  | nil => rfl
  | cons c s ih =>
    by_cases hc : c = '\n'
    · rw [hc, written_newline, ih]
      rfl
    · rw [written_cons lf hc, ih]

theorem uniformLineEnds_cons {c : Char} (hc : c ≠ '\r') (s : List Char) :
    uniformLineEnds (c :: s) = c :: uniformLineEnds s := by
  rw [uniformLineEnds]
  · intro _ h _
    exact hc h
  · intro h
    exact hc h

theorem uniformLineEnds_carriageReturn {s : List Char} (hs : s.head? ≠ some '\n') :
    uniformLineEnds ('\r' :: s) = '\n' :: uniformLineEnds s := by
  rw [uniformLineEnds]
  intro rest h
  exact hs (by rw [h]; rfl)

/-- Nothing that is written begins with a line feed, where line ends are carriage returns. -/
theorem LineEnd.head?_written_cr (s : List Char) : (cr.written s).head? ≠ some '\n' := by
  cases s with
  | nil => exact nofun
  | cons c s =>
    by_cases hc : c = '\n'
    · rw [hc, written_newline]
      exact fun h ↦ absurd (Option.some.inj h) (by decide)
    · rw [written_cons cr hc]
      exact fun h ↦ hc (Option.some.inj h)

/-- A text without carriage returns is read as it is, whatever its line ends are written as. -/
theorem uniformLineEnds_written (ends : LineEnd) {s : List Char} (hs : '\r' ∉ s) :
    uniformLineEnds (ends.written s) = s := by
  induction s with
  | nil => rfl
  | cons c s ih =>
    obtain ⟨hc, hrest⟩ : '\r' ≠ c ∧ '\r' ∉ s := by simpa using hs
    have ih := ih hrest
    by_cases hline : c = '\n'
    · rw [hline, LineEnd.written_newline]
      cases ends with
      | lf =>
        change uniformLineEnds ('\n' :: LineEnd.lf.written s) = _
        rw [uniformLineEnds_cons (by decide), ih]
      | crlf =>
        change '\n' :: uniformLineEnds (LineEnd.crlf.written s) = _
        rw [ih]
      | cr =>
        change uniformLineEnds ('\r' :: LineEnd.cr.written s) = _
        rw [uniformLineEnds_carriageReturn (LineEnd.head?_written_cr s), ih]
    · rw [LineEnd.written_cons ends hline, uniformLineEnds_cons (Ne.symm hc), ih]

theorem not_mem_uniformLineEnds (s : List Char) : '\r' ∉ uniformLineEnds s := by
  fun_induction uniformLineEnds s with
  | case1 => simp
  | case2 s ih => simpa using ih
  | case3 s _ ih => simpa using ih
  | case4 c s _ hc ih => simpa [ih] using fun h ↦ hc h.symm

end GherkinLint.Text
