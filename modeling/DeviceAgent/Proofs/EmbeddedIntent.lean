import DeviceAgent.Proofs.Octets
import DeviceAgent.Proofs.Scan
import Mathlib.Data.List.TakeWhile

/-!
# Objects inside free text

The text of a JSON value leaves an open group as it finds it, whatever stands in its strings. So the text of an
object is one group wherever it stands outside the groups of the text around it, and the intent in it is found
unless an earlier group holds one.
-/

namespace DeviceAgent

namespace Json

open Scan

/-- A reader got from one place of a text to a later one over octets that leave an open group as they find
it. -/
def Crosses (bs rest : List UInt8) : Prop :=
  ∃ used, bs = used ++ rest ∧ Passes false used

lemma Crosses.trans {as bs cs : List UInt8} (h : Crosses as bs) (h' : Crosses bs cs) : Crosses as cs := by
  obtain ⟨used, rfl, hu⟩ := h
  obtain ⟨used', rfl, hu'⟩ := h'
  exact ⟨used ++ used', by simp, hu.append hu'⟩

lemma crosses_of_plain {used : List UInt8} (h : ∀ b ∈ used, Plain b) (rest : List UInt8) :
    Crosses (used ++ rest) rest :=
  ⟨used, rfl, passes_of_plain h⟩

lemma crosses_cons {b : UInt8} (h : Plain b) (rest : List UInt8) : Crosses (b :: rest) rest := by
  have hall : ∀ b' ∈ [b], Plain b' := by simpa using h
  exact crosses_of_plain hall rest

lemma crosses_braces {bs rest : List UInt8} (h : Crosses bs (0x7D :: rest)) : Crosses (0x7B :: bs) rest := by
  obtain ⟨used, rfl, hu⟩ := h
  exact ⟨0x7B :: (used ++ [0x7D]), by simp, passes_braces hu⟩

/-- A test that the quote and the braces fail is passed by plain octets only. -/
lemma plain_of_test {p : UInt8 → Bool} (hp : (p 0x22 || p 0x7B || p 0x7D) = false) {b : UInt8}
    (h : p b = true) : Plain b := by
  simp only [Bool.or_eq_false_iff] at hp
  refine ⟨?_, ?_, ?_⟩ <;> rintro rfl <;> simp_all

lemma crosses_takeWhile {p : UInt8 → Bool} (hp : (p 0x22 || p 0x7B || p 0x7D) = false) (bs : List UInt8) :
    Crosses bs (bs.dropWhile p) := by
  have hall : ∀ b ∈ bs.takeWhile p, Plain b := fun b hb => plain_of_test hp (List.mem_takeWhile_imp hb)
  have h := crosses_of_plain hall (bs.dropWhile p)
  rwa [List.takeWhile_append_dropWhile] at h

lemma crosses_skipSpace {bs rest : List UInt8} (h : skipSpace bs = rest) : Crosses bs rest :=
  h ▸ crosses_takeWhile (by decide) bs

lemma crosses_spanDigits {bs ds rest : List UInt8} (h : spanDigits bs = (ds, rest)) : Crosses bs rest := by
  simp only [spanDigits, Prod.mk.injEq] at h
  exact h.2 ▸ crosses_takeWhile (by decide) bs

lemma crosses_after {word bs rest : List UInt8} (hw : (word.all fun b => decide (Plain b)) = true)
    (h : after? word bs = some rest) : Crosses bs rest := by
  have hall : ∀ b ∈ word, Plain b := fun b hb => of_decide_eq_true (List.all_eq_true.mp hw b hb)
  unfold after? at h
  split at h
  · next hp =>
    obtain ⟨tail, rfl⟩ := List.isPrefixOf_iff_prefix.mp hp
    simp only [List.drop_left, Option.some.injEq] at h
    subst h
    exact crosses_of_plain hall tail
  · simp at h

/-! ## Strings -/

lemma hexValue?_ne {b : UInt8} {n : Nat} (h : hexValue? b = some n) : b ≠ 0x22 ∧ b ≠ 0x5C := by
  constructor <;> rintro rfl <;> simp [hexValue?, isDigit] at h

lemma passes_unit {a b c d : UInt8} {n : Nat} (h : unit? a b c d = some n) : Passes true [a, b, c, d] := by
  simp only [unit?, Option.bind_eq_some_iff, Option.map_eq_some_iff] at h
  obtain ⟨na, ha, nb, hb, nc, hc, nd, hd, -⟩ := h
  have octet {x : UInt8} {m : Nat} (hx : hexValue? x = some m) : Passes true [x] :=
    passes_literal_octet (hexValue?_ne hx).1 (hexValue?_ne hx).2
  exact (octet ha).append ((octet hb).append ((octet hc).append (octet hd)))

/-- The contents of a literal, the quote that closes it and a rest. -/
def Closes (bs rest : List UInt8) : Prop :=
  ∃ body, bs = body ++ 0x22 :: rest ∧ Passes true body

lemma Closes.append {used bs rest : List UInt8} (hu : Passes true used) (h : Closes bs rest) :
    Closes (used ++ bs) rest := by
  obtain ⟨body, rfl, hb⟩ := h
  exact ⟨used ++ body, by simp, hu.append hb⟩

lemma Closes.crosses {bs rest : List UInt8} (h : Closes bs rest) : Crosses (0x22 :: bs) rest := by
  obtain ⟨body, rfl, hb⟩ := h
  exact ⟨0x22 :: (body ++ [0x22]), by simp, passes_quotes hb⟩

/-- A string is read up to the quote that closes the literal. -/
lemma readString_closes {s : Contents} {bs rest : List UInt8} {r : Option String}
    (h : readString s bs = some (r, rest)) : Closes bs rest := by
  fun_induction readString s bs with
  | case2 s bs =>
    simp only [Option.some.injEq, Prod.mk.injEq] at h
    exact ⟨[], by simp [h.2], passes_nil true⟩
  | case4 s a b c d bs n hn _ ih =>
    exact Closes.append ((passes_literal_escape 0x75).append (passes_unit hn)) (ih h)
  | case7 s e bs _ c _ _ ih =>
    exact Closes.append (passes_literal_escape e) (ih h)
  | case10 s b bs hq he _ ih =>
    exact Closes.append (passes_literal_octet hq he) (ih h)
  | _ => simp at h

/-! ## Numbers -/

lemma readWhole_crosses {bs ds rest : List UInt8} (h : readWhole bs = some (ds, rest)) : Crosses bs rest := by
  unfold readWhole at h
  split at h
  · simp at h
  · next d rest' hspan =>
    simp only [Option.some.injEq, Prod.mk.injEq] at h
    exact h.2 ▸ crosses_spanDigits hspan
  · next d ds' rest' _ hspan =>
    split at h
    · simp at h
    · simp only [Option.some.injEq, Prod.mk.injEq] at h
      exact h.2 ▸ crosses_spanDigits hspan

lemma readFraction_crosses {bs rest : List UInt8} {ds : Option (List UInt8)}
    (h : readFraction bs = some (ds, rest)) : Crosses bs rest := by
  cases bs with
  | nil =>
    simp only [readFraction, Option.some.injEq, Prod.mk.injEq] at h
    exact ⟨[], h.2, passes_nil false⟩
  | cons b bs =>
    simp only [readFraction] at h
    split at h
    · next hb =>
      have hpoint : Crosses (b :: bs) bs := crosses_cons (by rw [hb]; decide) bs
      split at h
      · simp at h
      · next ds' rest' _ hspan =>
        simp only [Option.some.injEq, Prod.mk.injEq] at h
        exact hpoint.trans (h.2 ▸ crosses_spanDigits hspan)
    · simp only [Option.some.injEq, Prod.mk.injEq] at h
      exact ⟨[], h.2, passes_nil false⟩

lemma readSign_crosses (bs : List UInt8) : Crosses bs (readSign bs).2 := by
  cases bs with
  | nil => exact ⟨[], rfl, passes_nil false⟩
  | cons b bs =>
    simp only [readSign]
    split
    · next hb => exact crosses_cons (by rw [hb]; decide) bs
    · split
      · next hb => exact crosses_cons (by rw [hb]; decide) bs
      · exact ⟨[], rfl, passes_nil false⟩

lemma readExponent_crosses {bs rest : List UInt8} {e : Option (Bool × List UInt8)}
    (h : readExponent bs = some (e, rest)) : Crosses bs rest := by
  cases bs with
  | nil =>
    simp only [readExponent, Option.some.injEq, Prod.mk.injEq] at h
    exact ⟨[], h.2, passes_nil false⟩
  | cons b bs =>
    simp only [readExponent] at h
    split at h
    · next hb =>
      have hmark : Crosses (b :: bs) bs :=
        crosses_cons (plain_of_test (p := fun b => b == 0x65 || b == 0x45) (by decide) hb) bs
      split at h
      · simp at h
      · next ds' rest' _ hspan =>
        simp only [Option.some.injEq, Prod.mk.injEq] at h
        exact hmark.trans ((readSign_crosses bs).trans (h.2 ▸ crosses_spanDigits hspan))
    · simp only [Option.some.injEq, Prod.mk.injEq] at h
      exact ⟨[], h.2, passes_nil false⟩

lemma readNumber_crosses {negative : Bool} {bs rest : List UInt8} {t : NumberText}
    (h : readNumber negative bs = some (t, rest)) : Crosses bs rest := by
  simp only [readNumber, Option.bind_eq_some_iff, Option.map_eq_some_iff, Prod.exists, Prod.mk.injEq] at h
  obtain ⟨whole, r₁, hw, fraction, r₂, hf, exponent, r₃, he, -, rfl⟩ := h
  exact (readWhole_crosses hw).trans ((readFraction_crosses hf).trans (readExponent_crosses he))

/-! ## Values -/

/-- What the three readers of values do with a given fuel. -/
structure ReadersCross (fuel : Nat) : Prop where
  value : ∀ {depth bs t rest}, readValue fuel depth bs = some (t, rest) → Crosses bs rest
  items : ∀ {depth done bs ts rest}, readItems fuel depth done bs = some (ts, rest) → Crosses bs rest
  members : ∀ {depth done bs ms rest}, readMembers fuel depth done bs = some (ms, rest) →
    Crosses bs (0x7D :: rest)

lemma readMembers_crosses {fuel : Nat} (ih : ∀ n, n < fuel → ReadersCross n) {depth : Nat}
    {done ms : List (Option String × Tree)} {bs rest : List UInt8} :
    readMembers fuel depth done bs = some (ms, rest) → Crosses bs (0x7D :: rest) := by
  -- A member is a literal, a colon and a value, each with blanks behind it.
  have pair {n : Nat} (hn : n < fuel) {text behind value next more : List UInt8} {key : Option String} {t : Tree}
      (hq : skipSpace bs = 0x22 :: text) (hkey : readString ⟨some [], none⟩ text = some (key, behind))
      (hc : skipSpace behind = 0x3A :: value) (hv : readValue n depth value = some (t, next))
      (hb : skipSpace next = more) : Crosses bs more := by
    have hname : Crosses bs behind := (crosses_skipSpace hq).trans (readString_closes hkey).crosses
    have hcolon : Crosses behind value := (crosses_skipSpace hc).trans (crosses_cons (by decide) value)
    exact hname.trans (hcolon.trans (((ih n hn).value hv).trans (crosses_skipSpace hb)))
  fun_cases readMembers fuel depth done bs with
  | case7 n _ _ _ text key behind hkey value t next hv more hq hc hb =>
    intro h
    simp only [Option.some.injEq, Prod.mk.injEq] at h
    exact h.2 ▸ pair n.lt_succ_self hq hkey hc hv hb
  | case8 n _ _ _ text key behind hkey value t next hv more hq hc hb =>
    intro h
    have hmember : Crosses bs more :=
      (pair n.lt_succ_self hq hkey hc hv hb).trans (crosses_cons (by decide) more)
    exact hmember.trans ((ih n n.lt_succ_self).members h)
  | _ => simp

lemma readItems_crosses {fuel : Nat} (ih : ∀ n, n < fuel → ReadersCross n) {depth : Nat} {done ts : List Tree}
    {bs rest : List UInt8} : readItems fuel depth done bs = some (ts, rest) → Crosses bs rest := by
  fun_cases readItems fuel depth done bs with
  | case4 n _ _ _ t next hv more hb =>
    intro h
    simp only [Option.some.injEq, Prod.mk.injEq] at h
    have hitem : Crosses bs more :=
      ((ih n n.lt_succ_self).value hv).trans ((crosses_skipSpace hb).trans (crosses_cons (by decide) more))
    exact h.2 ▸ hitem
  | case5 n _ _ _ t next hv more hb =>
    intro h
    have hitem : Crosses bs more :=
      ((ih n n.lt_succ_self).value hv).trans ((crosses_skipSpace hb).trans (crosses_cons (by decide) more))
    exact hitem.trans ((ih n n.lt_succ_self).items h)
  | _ => simp

lemma readValue_crosses {fuel : Nat} (ih : ∀ n, n < fuel → ReadersCross n) {depth : Nat} {t : Tree}
    {bs rest : List UInt8} : readValue fuel depth bs = some (t, rest) → Crosses bs rest := by
  fun_cases readValue fuel depth bs with
  | case3 n _ _ text hs =>
    simp only [Option.map_eq_some_iff, Prod.exists, Prod.mk.injEq]
    rintro ⟨s, _, h, -, rfl⟩
    exact (crosses_skipSpace hs).trans (readString_closes h).crosses
  | case6 n _ _ inner _ more hs _ hc =>
    simp only [Option.some.injEq, Prod.mk.injEq]
    rintro ⟨-, rfl⟩
    exact (crosses_skipSpace hs).trans (crosses_braces (crosses_skipSpace hc))
  | case7 n _ _ inner _ b more hc _ hs =>
    simp only [Option.map_eq_some_iff, Prod.exists, Prod.mk.injEq]
    rintro ⟨ms, _, h, -, rfl⟩
    have hinner := (crosses_skipSpace hc).trans ((ih n n.lt_succ_self).members h)
    exact (crosses_skipSpace hs).trans (crosses_braces hinner)
  | case10 n _ _ inner _ more hs _ _ hc =>
    simp only [Option.some.injEq, Prod.mk.injEq]
    rintro ⟨-, rfl⟩
    have hopen : Crosses bs inner := (crosses_skipSpace hs).trans (crosses_cons (by decide) inner)
    exact hopen.trans ((crosses_skipSpace hc).trans (crosses_cons (by decide) more))
  | case11 n _ _ inner _ b more hc _ hs =>
    simp only [Option.map_eq_some_iff, Prod.exists, Prod.mk.injEq]
    rintro ⟨ts, _, h, -, rfl⟩
    have hopen : Crosses bs inner := (crosses_skipSpace hs).trans (crosses_cons (by decide) inner)
    exact hopen.trans ((crosses_skipSpace hc).trans ((ih n n.lt_succ_self).items h))
  | case12 n _ _ word hs | case13 n _ _ word hs | case14 n _ _ word hs =>
    simp only [Option.map_eq_some_iff, Prod.mk.injEq]
    rintro ⟨_, h, -, rfl⟩
    have hfirst : Crosses bs word := (crosses_skipSpace hs).trans (crosses_cons (by decide) word)
    exact hfirst.trans (crosses_after (by decide) h)
  | case15 n _ _ text hs =>
    simp only [Option.map_eq_some_iff, Prod.exists, Prod.mk.injEq]
    rintro ⟨number, _, h, -, rfl⟩
    have hsign : Crosses bs text := (crosses_skipSpace hs).trans (crosses_cons (by decide) text)
    exact hsign.trans (readNumber_crosses h)
  | case16 n _ _ b text hs =>
    simp only [Option.map_eq_some_iff, Prod.exists, Prod.mk.injEq]
    rintro ⟨number, _, h, -, rfl⟩
    exact (crosses_skipSpace hs).trans (readNumber_crosses h)
  | _ => simp

lemma readersCross (fuel : Nat) : ReadersCross fuel := by
  induction fuel using Nat.strong_induction_on with
  | _ fuel ih => exact ⟨readValue_crosses ih, readItems_crosses ih, readMembers_crosses ih⟩

/-- Behind an opening brace a value is read up to the brace that closes it. -/
lemma readValue_braces {fuel depth : Nat} {bs rest : List UInt8} {t : Tree}
    (h : readValue fuel depth (0x7B :: bs) = some (t, rest)) : Crosses bs (0x7D :: rest) := by
  cases fuel with
  | zero => simp [readValue] at h
  | succ fuel =>
    have hskip : skipSpace (0x7B :: bs) = 0x7B :: bs := rfl
    rw [readValue, hskip] at h
    simp only [show (0x7B : UInt8) ≠ 0x22 from by decide, ite_true, ite_false] at h
    split at h
    · simp at h
    · split at h
      · simp at h
      · next c more hc =>
        split at h
        · next hclose =>
          simp only [Option.some.injEq, Prod.mk.injEq] at h
          rw [hclose, h.2] at hc
          exact crosses_skipSpace hc
        · simp only [Option.map_eq_some_iff, Prod.exists, Prod.mk.injEq] at h
          obtain ⟨ms, _, h, -, rfl⟩ := h
          exact (crosses_skipSpace hc).trans ((readersCross fuel).members h)

/-- A text between braces that reads as a value passes between them, up to blanks at its end. -/
lemma read?_braces {bs : List UInt8} {v : Json} (h : read? (0x7B :: bs) = some v) :
    ∃ inner rest, bs = inner ++ 0x7D :: rest ∧ Passes false inner ∧ skipSpace rest = [] := by
  simp only [read?, Tree.read?, Option.bind_eq_some_iff] at h
  obtain ⟨t, ht, -⟩ := h
  split at ht
  · next t' rest hvalue =>
    obtain ⟨inner, hbs, hpass⟩ := readValue_braces hvalue
    split at ht
    · next hblank => exact ⟨inner, rest, hbs, hpass, List.isEmpty_iff.mp hblank⟩
    · simp at ht
  · simp at ht

end Json

/-! ## Spans and intents -/

open Scan

/-- The octets of a text from an opening to a closing brace that reads as a value. -/
lemma octets_braces {text : String} (hfirst : text.toList.head? = some '{')
    (hlast : text.toList.getLast? = some '}') {v : Json} (h : Json.read? (Text.octets text) = some v) :
    ∃ inner, Text.octets text = 0x7B :: (inner ++ [0x7D]) ∧ Passes false inner := by
  obtain ⟨tail, htail⟩ : ∃ tail, text.toList = '{' :: tail := List.head?_eq_some_iff.mp hfirst
  obtain ⟨init, hinit⟩ : ∃ init, text.toList = init ++ ['}'] := List.getLast?_eq_some_iff.mp hlast
  have hstart : Text.octets text = 0x7B :: tail.flatMap String.utf8EncodeChar := by
    rw [Text.octets_eq_flatMap, htail]
    rfl
  have hend : Text.octets text = init.flatMap String.utf8EncodeChar ++ [0x7D] := by
    rw [Text.octets_eq_flatMap, hinit, List.flatMap_append]
    rfl
  rw [hstart] at h
  obtain ⟨inner, rest, hrest, hpass, hblank⟩ := Json.read?_braces h
  have hnil : rest = [] := by
    rcases List.eq_nil_or_concat rest with hr | ⟨front, b, hr⟩
    · exact hr
    · have hb : b = 0x7D := by
        have hsplit : (0x7B :: (inner ++ 0x7D :: front)) ++ [b] = init.flatMap String.utf8EncodeChar ++ [0x7D] := by
          rw [← hend, hstart, hrest, hr]
          simp
        simpa using (List.append_inj' hsplit rfl).2
      have hall : ∀ c ∈ rest, Json.isSpace c = true := List.dropWhile_eq_nil_iff.mp hblank
      have hspace := hall b (by simp [hr])
      rw [hb] at hspace
      exact absurd hspace (by decide)
  exact ⟨inner, by rw [hstart, hrest, hnil], hpass⟩

/-- A text without an opening brace has no octet of one. -/
lemma octets_ne_brace {text : String} (h : '{' ∉ text.toList) : ∀ b ∈ Text.octets text, b ≠ 0x7B := by
  rintro b hb rfl
  rw [Text.octets_eq_flatMap, List.mem_flatMap] at hb
  obtain ⟨c, hc, hmem⟩ := hb
  obtain rfl : c = '{' := Text.eq_of_mem_utf8EncodeChar (by decide) rfl hmem
  exact h hc

/-- The spans of a text around the text of an object that stands outside its groups. -/
lemma objectSpans_append {before object : String} (behind : String)
    (hb : (start.run (Text.octets before)).depth = 0) {inner : List UInt8}
    (ho : Text.octets object = 0x7B :: (inner ++ [0x7D])) (hpass : Passes false inner) :
    objectSpans (before ++ object ++ behind) = objectSpans before ++ object :: objectSpans behind := by
  have hsingle : Text.ofOctets? (0x7B :: (inner ++ [0x7D])) = some object := by
    rw [← ho]
    exact Text.ofOctets?_octets object
  simp only [objectSpans, Text.octets_append, List.append_assoc]
  rw [groups_start_append hb, ho, groups_braces hpass, List.filterMap_append, List.filterMap_cons, hsingle]

/-- The first intent among candidates, those in front holding none. -/
lemma embeddedIntent?_of_objectSpans {text object : String} {front tail : List String} {intent : Intent}
    (hspans : objectSpans text = front ++ object :: tail) (hcount : front.length < candidateLimit)
    (hnone : ∀ span ∈ front, (Text.octets span).length ≤ spanLimit → Intent.ofText? span = none)
    (hsize : (Text.octets object).length ≤ spanLimit) (hintent : Intent.ofText? object = some intent) :
    embeddedIntent? text = some intent := by
  obtain ⟨room, hroom⟩ : ∃ room, candidateLimit - front.length = room + 1 :=
    Nat.exists_eq_succ_of_ne_zero (by omega)
  have htake : (objectSpans text).take candidateLimit = front ++ object :: tail.take room := by
    rw [hspans, List.take_append, List.take_of_length_le hcount.le, hroom, List.take_succ_cons]
  have hfront : ((front.filter fun span => (Text.octets span).length ≤ spanLimit).findSome? Intent.ofText?) = none := by
    rw [List.findSome?_eq_none_iff]
    intro span hspan
    rw [List.mem_filter, decide_eq_true_eq] at hspan
    exact hnone span hspan.1 hspan.2
  rw [embeddedIntent?, htake, List.filter_append, List.findSome?_append, hfront,
    List.filter_cons_of_pos (by simpa using hsize), List.findSome?_cons, hintent]
  rfl

/-- The text of an object is found wherever it stands outside the groups of the text in front of it, for
instance behind a text without an opening brace: it is a span of its own, and the intent in it is the one that
is taken, if no earlier span holds one. -/
theorem embedded_object_found (before object behind : String) (members : List (String × Json))
    (hbefore : '{' ∉ before.toList ∨ (start.run (Text.octets before)).depth = 0)
    (hfirst : object.toList.head? = some '{') (hlast : object.toList.getLast? = some '}')
    (hread : Json.read? (Text.octets object) = some (.object members)) :
    objectSpans (before ++ object ++ behind) = objectSpans before ++ object :: objectSpans behind ∧
      ∀ intent, (Text.octets object).length ≤ spanLimit → Intent.ofJson? (.object members) = some intent →
        (objectSpans before).length < candidateLimit →
        (∀ span ∈ objectSpans before, (Text.octets span).length ≤ spanLimit → Intent.ofText? span = none) →
        embeddedIntent? (before ++ object ++ behind) = some intent := by
  have hdepth : (start.run (Text.octets before)).depth = 0 := by
    rcases hbefore with hnone | hclosed
    · rw [run_start_of_no_brace (octets_ne_brace hnone)]
      rfl
    · exact hclosed
  obtain ⟨inner, ho, hpass⟩ := octets_braces hfirst hlast hread
  have hspans := objectSpans_append behind hdepth ho hpass
  refine ⟨hspans, ?_⟩
  intro intent hsize hintent hcount hnone
  have htext : Intent.ofText? object = some intent := by
    rw [Intent.ofText?, hread]
    exact hintent
  exact embeddedIntent?_of_objectSpans hspans hcount hnone hsize htext

/-- A brace group without an intent in front and a quoted brace inside hide nothing. -/
theorem embedded_object_found_in_prose :
    objectSpans ("Set \x7bit\x7d so: " ++ "\x7b\"action\":\"launch\",\"app\":\"\\\"\x7d\"\x7d" ++ " \x7b") =
        ["\x7bit\x7d", "\x7b\"action\":\"launch\",\"app\":\"\\\"\x7d\"\x7d"] ∧
      embeddedIntent? ("Set \x7bit\x7d so: " ++ "\x7b\"action\":\"launch\",\"app\":\"\\\"\x7d\"\x7d" ++ " \x7b") =
        some ⟨"launch", [("app", .string "\"\x7d")]⟩ := by
  have hspans : objectSpans "Set \x7bit\x7d so: " = ["\x7bit\x7d"] := by rfl
  have h := embedded_object_found "Set \x7bit\x7d so: " "\x7b\"action\":\"launch\",\"app\":\"\\\"\x7d\"\x7d" " \x7b"
    [("action", .string "launch"), ("app", .string "\"\x7d")] (.inr (by decide)) (by decide) (by decide) (by rfl)
  refine ⟨?_, h.2 _ (by decide) (by rfl) ?_ ?_⟩
  · rw [h.1, hspans]
    rfl
  · rw [hspans]
    decide
  · rw [hspans]
    intro span hspan _
    rw [List.mem_singleton.mp hspan]
    rfl

end DeviceAgent
