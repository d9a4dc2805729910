import DeviceAgent.Proofs.EmbeddedIntent

/-!
# How spans lie in a text

The spans of a text stand in it one behind another, each a whole group. Between them there is no opening brace, and
behind the last no group that closes. Braces are characters of one octet, so a cut at one never splits a character.
-/

namespace DeviceAgent

open Scan

/-- How spans lie in a text: each is a whole group, with a gap in front that has no opening brace, and behind the last
there is such a gap and maybe a group that stays open to the end. -/
inductive Layout : String → List String → Prop where
  | rest {gap tail : String} (hgap : '{' ∉ gap.toList) (htail : start.StaysOpen (Text.octets tail)) :
      Layout (gap ++ tail) []
  | span {gap span behind : String} {spans : List String} (hgap : '{' ∉ gap.toList)
      (hspan : IsGroup (Text.octets span)) (h : Layout behind spans) : Layout (gap ++ span ++ behind) (span :: spans)

/-- The groups of octets are those of the spans, so none of them is cut inside a character. -/
lemma Layout.groups_eq {text : String} {spans : List String} (h : Layout text spans) :
    start.groups [] (Text.octets text) = spans.map Text.octets := by
  induction h with
  | rest hgap htail =>
    rw [Text.octets_append, groups_of_no_brace (octets_ne_brace hgap), groups_of_open htail, List.map_nil]
  | span hgap hspan _ ih =>
    rw [Text.octets_append, Text.octets_append, List.append_assoc, groups_of_no_brace (octets_ne_brace hgap),
      groups_of_isGroup hspan, ih, List.map_cons]

lemma Layout.objectSpans_eq {text : String} {spans : List String} (h : Layout text spans) :
    objectSpans text = spans := by
  have hread : Text.ofOctets? ∘ Text.octets = some := funext Text.ofOctets?_octets
  rw [objectSpans, h.groups_eq, List.filterMap_map, hread, List.filterMap_some]

/-- Every text is laid out in some way. -/
lemma exists_layout (text : String) : ∃ spans, Layout text spans := by
  -- What stands behind the first group is shorter.
  induction hn : (Text.octets text).length using Nat.strong_induction_on generalizing text with
  | _ n ih =>
    by_cases hbrace : '{' ∈ text.toList
    · obtain ⟨gap, after, htext, hgap⟩ := List.eq_append_cons_of_mem hbrace
      obtain rfl : text = .ofList gap ++ .ofList ('{' :: after) := by
        rw [← String.ofList_append, ← htext, String.ofList_toList]
      have hgap : '{' ∉ (String.ofList gap).toList := by rwa [String.toList_ofList]
      have hopening : Text.octets (.ofList ('{' :: after)) = 0x7B :: after.flatMap String.utf8EncodeChar := by
        rw [Text.octets_eq_flatMap, String.toList_ofList]
        rfl
      obtain hopen | ⟨inner, rest, hafter, hgroup⟩ := staysOpen_or_isGroup (after.flatMap String.utf8EncodeChar)
      · exact ⟨[], .rest hgap (hopening ▸ hopen)⟩
      · rw [hafter, ← List.cons_append] at hopening
        obtain ⟨span, behind, hcut, hspan, hbehind⟩ := Text.exists_append_of_octets (by decide) hopening
        have hshorter : (Text.octets behind).length < n := by
          rw [← hn, hcut, Text.octets_append, Text.octets_append, hspan]
          simp
          omega
        obtain ⟨spans, hspans⟩ := ih _ hshorter behind rfl
        rw [hcut, ← String.append_assoc]
        exact ⟨span :: spans, .span hgap (hspan ▸ hgroup) hspans⟩
    · have htext : text ++ "" = text := String.append_empty
      exact ⟨[], htext ▸ .rest hbrace trivial⟩

lemma layout_objectSpans (text : String) : Layout text (objectSpans text) := by
  obtain ⟨spans, h⟩ := exists_layout text
  rw [h.objectSpans_eq]
  exact h

lemma Layout.isGroup {text span : String} {spans : List String} (h : Layout text spans) (hspan : span ∈ spans) :
    IsGroup (Text.octets span) := by
  induction h with
  | rest => simp at hspan
  | span _ hfirst _ ih =>
    obtain rfl | hspan := List.mem_cons.mp hspan
    · exact hfirst
    · exact ih hspan

/-- A group goes from an opening to a closing brace. -/
lemma braces_of_isGroup {span : String} (h : IsGroup (Text.octets span)) :
    span.toList.head? = some '{' ∧ span.toList.getLast? = some '}' := by
  obtain ⟨inner, hspan, -⟩ := h
  refine ⟨Text.head?_of_octets (b := 0x7B) (by decide) rfl ?_, Text.getLast?_of_octets (b := 0x7D) (by decide) rfl ?_⟩
  · rw [hspan, List.head?_cons]
  · rw [hspan, ← List.cons_append, List.getLast?_concat]

lemma objectSpans_of_isGroup {span : String} (h : IsGroup (Text.octets span)) : objectSpans span = [span] := by
  have hlayout : Layout ("" ++ span ++ ("" ++ "")) [span] :=
    .span List.not_mem_nil h (.rest List.not_mem_nil trivial)
  rw [String.empty_append, String.append_empty, String.append_empty] at hlayout
  exact hlayout.objectSpans_eq

/-- A text cut outside the groups has the spans of both parts. -/
lemma objectSpans_append_of_closed {before : String} (h : (start.run (Text.octets before)).depth = 0)
    (behind : String) : objectSpans (before ++ behind) = objectSpans before ++ objectSpans behind := by
  rw [objectSpans, Text.octets_append, groups_start_append h, List.filterMap_append]
  rfl

/-- The spans of a text are the groups that stand in it, one behind another; no group of octets is left out. Each goes
from an opening to a closing brace and is its own only span. When no group is open, neither is a string literal or an
escape, and cutting a text at such a place cuts its spans there. -/
theorem spans_laid_out (text : String) :
    Layout text (objectSpans text) ∧
    start.groups [] (Text.octets text) = (objectSpans text).map Text.octets ∧
    (∀ span ∈ objectSpans text, span.toList.head? = some '{' ∧ span.toList.getLast? = some '}' ∧
      objectSpans span = [span]) ∧
    (∀ bs, (start.run bs).depth = 0 → (start.run bs).inString = false ∧ (start.run bs).escaped = false) ∧
    ∀ before behind, text = before ++ behind → (start.run (Text.octets before)).depth = 0 →
      objectSpans text = objectSpans before ++ objectSpans behind := by
  have hlayout := layout_objectSpans text
  refine ⟨hlayout, hlayout.groups_eq, ?_, ?_, ?_⟩
  · intro span hspan
    have hgroup := hlayout.isGroup hspan
    obtain ⟨hfirst, hlast⟩ := braces_of_isGroup hgroup
    exact ⟨hfirst, hlast, objectSpans_of_isGroup hgroup⟩
  · intro bs hclosed
    rw [(sound_start.run bs).eq_start hclosed]
    exact ⟨rfl, rfl⟩
  · rintro before behind rfl hclosed
    exact objectSpans_append_of_closed hclosed behind

/-- Characters of two octets, a brace inside a literal, and a group that stays open. -/
theorem spans_laid_out_umlauts :
    (start.run (Text.octets "é \x7b\"\x7d\"\x7d")).depth = 0 ∧
      objectSpans ("é \x7b\"\x7d\"\x7d" ++ " ü\x7bö\x7d \x7b") = ["\x7b\"\x7d\"\x7d", "\x7bö\x7d"] ∧
      objectSpans "\x7bö\x7d" = ["\x7bö\x7d"] := by
  obtain ⟨-, -, hspan, -, hsplit⟩ := spans_laid_out ("é \x7b\"\x7d\"\x7d" ++ " ü\x7bö\x7d \x7b")
  have hclosed : (start.run (Text.octets "é \x7b\"\x7d\"\x7d")).depth = 0 := by decide
  have hspans : objectSpans ("é \x7b\"\x7d\"\x7d" ++ " ü\x7bö\x7d \x7b") = ["\x7b\"\x7d\"\x7d", "\x7bö\x7d"] := by
    rw [hsplit _ _ rfl hclosed]
    rfl
  have hmem : "\x7bö\x7d" ∈ objectSpans ("é \x7b\"\x7d\"\x7d" ++ " ü\x7bö\x7d \x7b") := by
    rw [hspans]
    decide
  exact ⟨hclosed, hspans, (hspan _ hmem).2.2⟩

end DeviceAgent
