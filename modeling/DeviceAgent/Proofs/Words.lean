import DeviceAgent.Interpreter.Utterance
import Mathlib.Data.List.DropRight
import Mathlib.Tactic.Lemma
import Mathlib.Tactic.SplitIfs

/-!
# Trimmed texts and words

What trimming leaves of a text, and what the words are that a text is cut into.
-/

namespace DeviceAgent

namespace Text

/-! ## Blanks -/

/-- The code points of the blanks. -/
def blanks : List Nat :=
  [9, 10, 11, 12, 13, 0x20, 0x85, 0xA0, 0x1680, 0x2000, 0x2001, 0x2002, 0x2003, 0x2004, 0x2005, 0x2006, 0x2007, 0x2008,
    0x2009, 0x200A, 0x2028, 0x2029, 0x202F, 0x205F, 0x3000]

lemma toNat_mem_blanks {c : Char} (h : isBlank c = true) : c.toNat ∈ blanks := by
  simp [isBlank, blanks] at h ⊢
  omega

lemma mem_of_mem_dropEndWhile {p : Char → Bool} {c : Char} {cs : List Char} (h : c ∈ dropEndWhile p cs) : c ∈ cs :=
  (List.rdropWhile_prefix p cs).subset h

lemma mem_of_mem_trimWhile {p : Char → Bool} {c : Char} {cs : List Char} (h : c ∈ trimWhile p cs) : c ∈ cs :=
  (List.dropWhile_suffix p).subset (mem_of_mem_dropEndWhile h)

/-- Trimming leaves something of a text that is not all blank. -/
lemma trim_ne_nil {c : Char} {cs : List Char} (hc : c ∈ cs) (hb : isBlank c = false) : trim cs ≠ [] := by
  intro h
  have hall : ∀ d ∈ cs.dropWhile isBlank, isBlank d = true := List.rdropWhile_eq_nil_iff.mp h
  have hnil : cs.dropWhile isBlank = [] := by
    by_contra hne
    have hpos : 0 < (cs.dropWhile isBlank).length := List.length_pos_iff.mpr hne
    exact List.dropWhile_get_zero_not isBlank cs hpos (hall _ (List.getElem_mem hpos))
  have hblank := List.dropWhile_eq_nil_iff.mp hnil c hc
  rw [hb] at hblank
  exact Bool.noConfusion hblank

lemma head?_trimWhile {p : Char → Bool} {c : Char} {cs : List Char} (h : (trimWhile p cs).head? = some c) :
    p c = false := by
  obtain ⟨rest, hrest⟩ : trimWhile p cs <+: cs.dropWhile p := List.rdropWhile_prefix p (cs.dropWhile p)
  have hhead : (cs.dropWhile p).head? = some c := by rw [← hrest, List.head?_append, h, Option.some_or]
  have hstop := List.head?_dropWhile_not p cs
  rwa [hhead] at hstop

/-- Trimming leaves nothing to trim. -/
lemma trim_trim (cs : List Char) : trim (trim cs) = trim cs := by
  have hfront : (trim cs).dropWhile isBlank = trim cs := by
    rw [List.dropWhile_eq_self_iff]
    intro hpos
    have hfirst : (trim cs).head? = some (trim cs)[0] := by rw [List.head?_eq_getElem?, List.getElem?_eq_getElem hpos]
    rw [head?_trimWhile hfirst]
    exact Bool.false_ne_true
  show List.rdropWhile isBlank ((trim cs).dropWhile isBlank) = trim cs
  rw [hfront]
  exact List.rdropWhile_idempotent isBlank (cs.dropWhile isBlank)

lemma isEmpty_trimmed (s : String) : (trimmed s).isEmpty = isAllBlank s := by
  rw [Bool.eq_iff_iff, String.isEmpty_iff, trimmed, String.ofList_eq_empty_iff, isAllBlank, List.all_eq_true]
  constructor
  · intro h c hc
    by_contra hb
    exact trim_ne_nil hc (by simpa using hb) h
  · intro h
    have hnil : s.toList.dropWhile isBlank = [] := List.dropWhile_eq_nil_iff.mpr h
    rw [trim, trimWhile, hnil]
    rfl

end Text

/-! ## Words -/

namespace Utterance

lemma exists_of_mem_wordsOf {word : String} {text : List Char} (h : word ∈ wordsOf text) :
    ∃ part ∈ text.splitOnP (! isWordChar ·), word.toList = Text.trimWhile isWordEdge part ∧ word.toList ≠ [] := by
  rw [wordsOf, List.mem_filterMap] at h
  obtain ⟨trimmed, ht, h⟩ := h
  obtain ⟨part, hpart, rfl⟩ := List.mem_map.mp ht
  split_ifs at h with hempty
  obtain rfl := Option.some.inj h
  rw [String.toList_ofList]
  exact ⟨part, hpart, rfl, by simpa using hempty⟩

lemma isWordEdge_of_head? {word : String} {text : List Char} (h : word ∈ wordsOf text) {c : Char}
    (hc : word.toList.head? = some c) : isWordEdge c = false := by
  obtain ⟨part, -, hword, -⟩ := exists_of_mem_wordsOf h
  rw [hword] at hc
  exact Text.head?_trimWhile hc

end Utterance

end DeviceAgent
