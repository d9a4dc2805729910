import DeviceAgent.Intent.Embedded
import Mathlib.Tactic.Lemma

/-!
# The scan for brace groups

How the groups of a text arise from those of its parts. A text cut where no group is open has the groups of
both parts. `Passes` describes the texts that leave an open group as they find it: they are closed under
appending, bracing and quoting, which is how the texts of values are put together. A group that is opened is a whole
one (`IsGroup`) up to the first brace that closes it, or stays open to the end.
-/

namespace DeviceAgent.Scan

/-- A state that a scan can be in: no literal is open outside the groups, no escape outside the literals. -/
def Sound (s : Scan) : Prop :=
  (s.depth = 0 → s.inString = false) ∧ (s.inString = false → s.escaped = false)

lemma sound_start : start.Sound := ⟨fun _ => rfl, fun _ => rfl⟩

lemma Sound.eq_start {s : Scan} (h : s.Sound) (hd : s.depth = 0) : s = start := by
  have hq := h.1 hd
  have he := h.2 hq
  cases s
  simp_all [start]

lemma Sound.step {s : Scan} (h : s.Sound) (b : UInt8) : (s.step b).Sound := by
  obtain ⟨depth, inString, escaped⟩ := s
  unfold Sound Scan.step at *
  grind

@[simp] lemma run_nil (s : Scan) : s.run [] = s := rfl

@[simp] lemma run_cons (s : Scan) (b : UInt8) (bs : List UInt8) : s.run (b :: bs) = (s.step b).run bs := rfl

@[simp] lemma run_append (s : Scan) (as bs : List UInt8) : s.run (as ++ bs) = (s.run as).run bs :=
  List.foldl_append

lemma Sound.run {s : Scan} (h : s.Sound) (bs : List UInt8) : (s.run bs).Sound := by
  induction bs generalizing s with
  | nil => exact h
  | cons b bs ih => exact ih (h.step b)

/-! ## Groups of appended texts -/

/-- The groups of a text go on from those of its first part, when no group is open behind that. -/
lemma groups_append {s : Scan} {group : List UInt8} (hg : s.depth = 0 → group = []) {as : List UInt8}
    (ha : (s.run as).depth = 0) (bs : List UInt8) :
    s.groups group (as ++ bs) = s.groups group as ++ (s.run as).groups [] bs := by
  induction as generalizing s group with
  | nil =>
    rw [run_nil] at ha
    simp [hg ha, groups]
  | cons a as ih =>
    rw [run_cons] at ha
    simp only [List.cons_append, groups, run_cons]
    by_cases hn : (s.step a).depth = 0
    · have hi : (s.step a).groups [] (as ++ bs) =
          (s.step a).groups [] as ++ ((s.step a).run as).groups [] bs := ih (fun _ => rfl) ha
      by_cases hs : s.depth = 0
      · simp only [hn, hs, ite_true]
        exact hi
      · simp only [hn, hs, ite_true, ite_false, List.cons_append]
        rw [hi]
    · simp only [hn, ite_false]
      exact ih (fun h => absurd h hn) ha

/-- A text cut outside the groups has the groups of both parts. -/
lemma groups_start_append {as : List UInt8} (ha : (start.run as).depth = 0) (bs : List UInt8) :
    start.groups [] (as ++ bs) = start.groups [] as ++ start.groups [] bs := by
  have hstart : start.run as = start := (sound_start.run as).eq_start ha
  rw [groups_append (fun _ => rfl) ha, hstart]

/-- A group is open behind every octet of a text. -/
def StaysOpen (s : Scan) : List UInt8 → Prop
  | [] => True
  | b :: rest => 0 < (s.step b).depth ∧ (s.step b).StaysOpen rest

lemma StaysOpen.append {s : Scan} {as bs : List UInt8} (ha : s.StaysOpen as) (hb : (s.run as).StaysOpen bs) :
    s.StaysOpen (as ++ bs) := by
  induction as generalizing s with
  | nil => exact hb
  | cons a as ih => exact ⟨ha.1, ih ha.2 hb⟩

lemma groups_of_staysOpen {s : Scan} {as : List UInt8} (h : s.StaysOpen as) (group bs : List UInt8) :
    s.groups group (as ++ bs) = (s.run as).groups (as.reverse ++ group) bs := by
  induction as generalizing s group with
  | nil => rfl
  | cons a as ih =>
    have hn : (s.step a).depth ≠ 0 := by
      have := h.1
      omega
    simp only [List.cons_append, groups, hn, ite_false, run_cons, List.reverse_cons, List.append_assoc,
      List.nil_append]
    exact ih h.2 (a :: group)

/-! ## Texts that leave an open group as they find it -/

/-- From inside a group, in a literal of it or not, the scan comes back to where it was without leaving the
group. -/
def Passes (inString : Bool) (bs : List UInt8) : Prop :=
  ∀ depth, StaysOpen ⟨depth + 1, inString, false⟩ bs ∧
    run ⟨depth + 1, inString, false⟩ bs = ⟨depth + 1, inString, false⟩

lemma passes_nil (inString : Bool) : Passes inString [] := fun _ => ⟨trivial, rfl⟩

lemma Passes.append {inString : Bool} {as bs : List UInt8} (ha : Passes inString as)
    (hb : Passes inString bs) : Passes inString (as ++ bs) := by
  intro depth
  obtain ⟨hao, har⟩ := ha depth
  obtain ⟨hbo, hbr⟩ := hb depth
  refine ⟨hao.append ?_, ?_⟩
  · rw [har]
    exact hbo
  · rw [run_append, har, hbr]

lemma passes_octet {inString : Bool} {b : UInt8}
    (h : ∀ depth, step ⟨depth + 1, inString, false⟩ b = ⟨depth + 1, inString, false⟩) :
    Passes inString [b] := by
  intro depth
  refine ⟨⟨?_, trivial⟩, h depth⟩
  rw [h]
  exact Nat.succ_pos depth

/-- An octet, a text that passes behind it, and an octet that undoes the first. -/
lemma passes_between {outer inner : Bool} {first last : UInt8} (deeper : Nat → Nat)
    (hfirst : ∀ depth, step ⟨depth + 1, outer, false⟩ first = ⟨deeper depth + 1, inner, false⟩)
    (hlast : ∀ depth, step ⟨deeper depth + 1, inner, false⟩ last = ⟨depth + 1, outer, false⟩)
    {bs : List UInt8} (h : Passes inner bs) : Passes outer (first :: (bs ++ [last])) := by
  intro depth
  obtain ⟨ho, hr⟩ := h (deeper depth)
  refine ⟨⟨?_, ?_⟩, ?_⟩
  · rw [hfirst]
    exact Nat.succ_pos _
  · rw [hfirst]
    refine ho.append ?_
    rw [hr]
    refine ⟨?_, trivial⟩
    rw [hlast]
    exact Nat.succ_pos _
  · rw [run_cons, hfirst, run_append, hr, run_cons, hlast, run_nil]

lemma passes_braces {bs : List UInt8} (h : Passes false bs) : Passes false (0x7B :: (bs ++ [0x7D])) :=
  passes_between (· + 1) (fun _ => rfl) (fun _ => rfl) h

lemma passes_quotes {bs : List UInt8} (h : Passes true bs) : Passes false (0x22 :: (bs ++ [0x22])) :=
  passes_between id (fun depth => by simp [step]) (fun depth => by simp [step]) h

/-- An octet that means nothing to the scan outside the literals. -/
def Plain (b : UInt8) : Prop := b ≠ 0x22 ∧ b ≠ 0x7B ∧ b ≠ 0x7D

instance : DecidablePred Plain := fun _ => inferInstanceAs (Decidable (_ ∧ _))

lemma passes_of_plain {bs : List UInt8} (h : ∀ b ∈ bs, Plain b) : Passes false bs := by
  induction bs with
  | nil => exact passes_nil false
  | cons b bs ih =>
    have hb : Plain b := h b List.mem_cons_self
    have hpass : Passes false [b] := passes_octet fun depth => by simp [step, hb.1, hb.2.1, hb.2.2]
    exact hpass.append (ih fun c hc => h c (List.mem_cons_of_mem b hc))

/-- Inside a literal everything but the quote and the backslash passes. -/
lemma passes_literal_octet {b : UInt8} (hq : b ≠ 0x22) (he : b ≠ 0x5C) : Passes true [b] :=
  passes_octet fun depth => by simp [step, hq, he]

/-- A backslash takes the meaning from the octet behind it. -/
lemma passes_literal_escape (b : UInt8) : Passes true [0x5C, b] := by
  intro depth
  have hs : step ⟨depth + 1, true, false⟩ 0x5C = ⟨depth + 1, true, true⟩ := by simp [step]
  have hb : step ⟨depth + 1, true, true⟩ b = ⟨depth + 1, true, false⟩ := by simp [step]
  refine ⟨⟨?_, ?_, trivial⟩, ?_⟩
  · rw [hs]
    exact Nat.succ_pos depth
  · rw [hs, hb]
    exact Nat.succ_pos depth
  · rw [run_cons, hs, run_cons, hb, run_nil]

/-! ## Whole groups -/

/-- Outside the groups only an opening brace counts. -/
lemma step_start {b : UInt8} (h : b ≠ 0x7B) : start.step b = start := by
  simp [start, step, h]

lemma run_start_of_no_brace {bs : List UInt8} (h : ∀ b ∈ bs, b ≠ 0x7B) : start.run bs = start := by
  induction bs with
  | nil => rfl
  | cons b bs ih =>
    rw [run_cons, step_start (h b List.mem_cons_self)]
    exact ih (fun c hc => h c (List.mem_cons_of_mem b hc))

/-- A whole group: a brace that opens it, octets behind which it is open still, and the brace that closes it. -/
def IsGroup (bs : List UInt8) : Prop :=
  ∃ inner, bs = 0x7B :: (inner ++ [0x7D]) ∧ start.StaysOpen (0x7B :: inner) ∧ (start.run bs).depth = 0

lemma StaysOpen.depth_pos {s : Scan} {bs : List UInt8} (h : s.StaysOpen bs) (hne : bs ≠ []) :
    0 < (s.run bs).depth := by
  induction bs generalizing s with
  | nil => exact (hne rfl).elim
  | cons b bs ih =>
    cases bs with
    | nil => exact h.1
    | cons c bs => exact ih h.2 (List.cons_ne_nil c bs)

lemma groups_of_no_brace {gap : List UInt8} (h : ∀ b ∈ gap, b ≠ 0x7B) (bs : List UInt8) :
    start.groups [] (gap ++ bs) = start.groups [] bs := by
  induction gap with
  | nil => rfl
  | cons b gap ih =>
    have hd : start.depth = 0 := rfl
    rw [List.cons_append, groups, step_start (h b List.mem_cons_self), if_pos hd, if_pos hd]
    exact ih fun c hc => h c (List.mem_cons_of_mem b hc)

lemma groups_of_isGroup {bs : List UInt8} (h : IsGroup bs) (rest : List UInt8) :
    start.groups [] (bs ++ rest) = bs :: start.groups [] rest := by
  obtain ⟨inner, rfl, hopen, hclosed⟩ := h
  have hpos : (start.run (0x7B :: inner)).depth ≠ 0 := Nat.ne_of_gt (hopen.depth_pos (List.cons_ne_nil _ _))
  have hsplit : 0x7B :: (inner ++ [0x7D]) = (0x7B :: inner) ++ [0x7D] := rfl
  rw [hsplit, run_append, run_cons, run_nil] at hclosed
  have hstart : (start.run (0x7B :: inner)).step 0x7D = start :=
    ((sound_start.run _).step _).eq_start hclosed
  rw [hsplit, List.append_assoc, groups_of_staysOpen hopen, List.singleton_append, groups, if_pos hclosed, if_neg hpos,
    hstart]
  simp

lemma groups_of_open {bs : List UInt8} (h : start.StaysOpen bs) : start.groups [] bs = [] := by
  have hgroups := groups_of_staysOpen h [] []
  rwa [List.append_nil] at hgroups

/-- Only a closing brace brings the depth back to zero. -/
lemma eq_brace_of_closes {s : Scan} {b : UInt8} (hopen : 0 < s.depth) (hclosed : (s.step b).depth = 0) : b = 0x7D := by
  unfold step at hclosed
  grind

lemma staysOpen_or_closes (s : Scan) (bs : List UInt8) :
    s.StaysOpen bs ∨
      ∃ inner b rest, bs = inner ++ b :: rest ∧ s.StaysOpen inner ∧ ((s.run inner).step b).depth = 0 := by
  induction bs generalizing s with
  | nil => exact .inl trivial
  | cons b bs ih =>
    obtain hzero | hpos := Nat.eq_zero_or_pos (s.step b).depth
    · exact .inr ⟨[], b, bs, rfl, trivial, hzero⟩
    · obtain hopen | ⟨inner, c, rest, rfl, hopen, hclosed⟩ := ih (s.step b)
      · exact .inl ⟨hpos, hopen⟩
      · exact .inr ⟨b :: inner, c, rest, rfl, ⟨hpos, hopen⟩, hclosed⟩

/-- A group that is opened stays open to the end, or there is a whole one. -/
lemma staysOpen_or_isGroup (bs : List UInt8) :
    start.StaysOpen (0x7B :: bs) ∨ ∃ inner rest, bs = inner ++ 0x7D :: rest ∧ IsGroup (0x7B :: (inner ++ [0x7D])) := by
  obtain hopen | ⟨front, b, rest, hbs, hopen, hclosed⟩ := staysOpen_or_closes start (0x7B :: bs)
  · exact .inl hopen
  · cases front with
    | nil =>
      obtain ⟨rfl, -⟩ := List.cons.inj hbs
      exact absurd hclosed (by decide)
    | cons c inner =>
      obtain ⟨rfl, rfl⟩ := List.cons.inj hbs
      obtain rfl := eq_brace_of_closes (hopen.depth_pos (List.cons_ne_nil _ _)) hclosed
      refine .inr ⟨inner, rest, rfl, inner, rfl, hopen, ?_⟩
      rw [← List.cons_append, run_append]
      exact hclosed

/-- A braced text that passes is one group. -/
lemma isGroup_braces {bs : List UInt8} (h : Passes false bs) : IsGroup (0x7B :: (bs ++ [0x7D])) := by
  obtain ⟨ho, hr⟩ := h 0
  have hopen : start.step 0x7B = ⟨1, false, false⟩ := rfl
  refine ⟨bs, rfl, ⟨?_, ?_⟩, ?_⟩
  · rw [hopen]
    exact Nat.one_pos
  · rw [hopen]
    exact ho
  · rw [run_cons, hopen, run_append, hr]
    rfl

theorem groups_braces {bs : List UInt8} (h : Passes false bs) (rest : List UInt8) :
    start.groups [] (0x7B :: (bs ++ [0x7D]) ++ rest) = (0x7B :: (bs ++ [0x7D])) :: start.groups [] rest :=
  groups_of_isGroup (isGroup_braces h) rest

end DeviceAgent.Scan
