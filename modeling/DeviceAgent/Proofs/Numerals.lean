import DeviceAgent.Action.Basic
import DeviceAgent.Proofs.Words

/-!
# Whole numbers in a text

A text is read as a whole number exactly when it spells one that fits a signed 64-bit word. Around a level there may be
blanks, and percent signs behind it.
-/

namespace DeviceAgent

namespace Text

/-! ## Numerals -/

/-- A whole number as it is written: a sign or none, then digits. -/
inductive Spells : List Char → Int → Prop where
  | plain {ds : List Char} (hne : ds ≠ []) (hds : ∀ c ∈ ds, c.isDigit = true) : Spells ds (Nat.ofDigitChars 10 ds 0)
  | plus {ds : List Char} (hne : ds ≠ []) (hds : ∀ c ∈ ds, c.isDigit = true) :
      Spells ('+' :: ds) (Nat.ofDigitChars 10 ds 0)
  | minus {ds : List Char} (hne : ds ≠ []) (hds : ∀ c ∈ ds, c.isDigit = true) :
      Spells ('-' :: ds) (-(Nat.ofDigitChars 10 ds 0 : Int))

lemma digit?_eq (c : Char) : digit? c = if c.isDigit then some (c.toNat - '0'.toNat) else none := rfl

lemma digitsFrom?_eq_some {value n : Nat} {cs : List Char} :
    digitsFrom? value cs = some n ↔ (∀ c ∈ cs, c.isDigit = true) ∧ Nat.ofDigitChars 10 cs value = n := by
  induction cs generalizing value with
  | nil => simp [digitsFrom?]
  | cons c cs ih =>
    rw [digitsFrom?, digit?_eq, Nat.ofDigitChars_cons, List.forall_mem_cons]
    by_cases hc : c.isDigit = true
    · rw [if_pos hc, Option.bind_some, ih, Nat.mul_comm value 10]
      simp only [hc, true_and]
    · rw [if_neg hc, Option.bind_none]
      simp only [hc, false_and, reduceCtorEq]

lemma natural?_eq_some {n : Nat} {cs : List Char} :
    natural? cs = some n ↔ cs ≠ [] ∧ (∀ c ∈ cs, c.isDigit = true) ∧ Nat.ofDigitChars 10 cs 0 = n := by
  cases cs with
  | nil => simp [natural?]
  | cons c cs =>
    rw [natural?, digitsFrom?_eq_some]
    · simp
    · simp

lemma map_natural?_eq_some (f : Int → Int) {n : Int} {cs : List Char} :
    ((do let k ← natural? cs; pure (k : Int) : Option Int).map f) = some n ↔
      (cs ≠ [] ∧ ∀ c ∈ cs, c.isDigit = true) ∧ f (Nat.ofDigitChars 10 cs 0) = n := by
  constructor
  · intro h
    obtain ⟨k, hk, rfl⟩ := Option.map_eq_some_iff.mp h
    obtain ⟨j, hj, hk⟩ := Option.bind_eq_some_iff.mp hk
    obtain ⟨hne, hds, rfl⟩ := natural?_eq_some.mp hj
    rw [← Option.some.inj hk]
    exact ⟨⟨hne, hds⟩, rfl⟩
  · rintro ⟨⟨hne, hds⟩, rfl⟩
    rw [natural?_eq_some.mpr ⟨hne, hds, rfl⟩]
    rfl

/-- What is read as a whole number is what spells one, within a signed 64-bit word. -/
lemma int64?_eq_some {n : Int} {cs : List Char} : int64? cs = some n ↔ Spells cs n ∧ inInt64 n = true := by
  unfold int64?
  rw [Option.filter_eq_some_iff, and_congr_left_iff]
  intro _
  split
  · next ds =>
    rw [map_natural?_eq_some]
    constructor
    · rintro ⟨⟨hne, hds⟩, rfl⟩
      exact .minus hne hds
    · intro h
      cases h with
      | plain hne hds => exact absurd (hds '-' List.mem_cons_self) (by decide)
      | minus hne hds => exact ⟨⟨hne, hds⟩, rfl⟩
  · next ds =>
    rw [map_natural?_eq_some]
    constructor
    · rintro ⟨⟨hne, hds⟩, rfl⟩
      exact .plus hne hds
    · intro h
      cases h with
      | plain hne hds => exact absurd (hds '+' List.mem_cons_self) (by decide)
      | plus hne hds => exact ⟨⟨hne, hds⟩, rfl⟩
  · next hminus hplus =>
    rw [map_natural?_eq_some]
    constructor
    · rintro ⟨⟨hne, hds⟩, rfl⟩
      exact .plain hne hds
    · intro h
      cases h with
      | plain hne hds => exact ⟨⟨hne, hds⟩, rfl⟩
      | plus => exact (hplus _ rfl).elim
      | minus => exact (hminus _ rfl).elim

lemma spells_toString (n : Int) : Spells (toString n).toList n := by
  have hdigits (k : Nat) : Spells (Nat.toDigits 10 k) k := by
    have h : Spells (Nat.toDigits 10 k) (Nat.ofDigitChars 10 (Nat.toDigits 10 k) 0) :=
      .plain Nat.toDigits_ne_nil fun c => Nat.isDigit_of_mem_toDigits (by decide) (by decide)
    rwa [Nat.ofDigitChars_toDigits (by decide) (by decide)] at h
  cases n with
  | ofNat k =>
    have htext : (toString (Int.ofNat k)).toList = Nat.toDigits 10 k := Nat.toList_repr
    rw [htext]
    exact hdigits k
  | negSucc k =>
    have htext : (toString (Int.negSucc k)).toList = '-' :: Nat.toDigits 10 (k + 1) := by
      show ("-" ++ Nat.repr (k + 1)).toList = _
      rw [String.toList_append, Nat.toList_repr]
      rfl
    have h : Spells ('-' :: Nat.toDigits 10 (k + 1)) (-(Nat.ofDigitChars 10 (Nat.toDigits 10 (k + 1)) 0 : Int)) :=
      .minus Nat.toDigits_ne_nil fun c => Nat.isDigit_of_mem_toDigits (by decide) (by decide)
    rw [htext]
    rwa [Nat.ofDigitChars_toDigits (by decide) (by decide)] at h

/-- Blanks and percent signs have no place in a number. -/
lemma Spells.of_mem {n : Int} {cs : List Char} (h : Spells cs n) {c : Char} (hc : c ∈ cs) :
    isBlank c = false ∧ c ≠ '%' := by
  have hdigit {c : Char} (hc : c.isDigit = true) : isBlank c = false ∧ c ≠ '%' := by
    refine ⟨?_, by rintro rfl; simp at hc⟩
    by_contra hb
    have hnot : ∀ n ∈ blanks, (Char.ofNat n).isDigit = false := by decide +kernel
    have hblank := hnot _ (toNat_mem_blanks (by simpa using hb))
    rw [Char.ofNat_toNat, hc] at hblank
    exact Bool.noConfusion hblank
  cases h with
  | plain _ hds => exact hdigit (hds c hc)
  | plus _ hds =>
    obtain rfl | hc := List.mem_cons.mp hc
    · decide
    · exact hdigit (hds c hc)
  | minus _ hds =>
    obtain rfl | hc := List.mem_cons.mp hc
    · decide
    · exact hdigit (hds c hc)

lemma Spells.ne_nil {n : Int} {cs : List Char} (h : Spells cs n) : cs ≠ [] := by
  cases h with
  | plain hne => exact hne
  | _ => exact List.cons_ne_nil _ _

/-! ## Trimmed texts -/

lemma exists_dropEndWhile (p : Char → Bool) (cs : List Char) :
    ∃ after, cs = dropEndWhile p cs ++ after ∧ ∀ c ∈ after, p c = true :=
  ⟨cs.rtakeWhile p, List.rdropWhile_append_rtakeWhile.symm, fun _ hc => List.mem_rtakeWhile_imp hc⟩

lemma exists_trim (cs : List Char) :
    ∃ before after, cs = before ++ trim cs ++ after ∧ (∀ c ∈ before, isBlank c = true) ∧
      ∀ c ∈ after, isBlank c = true := by
  obtain ⟨after, hafter, hblank⟩ := exists_dropEndWhile isBlank (cs.dropWhile isBlank)
  refine ⟨cs.takeWhile isBlank, after, ?_, fun c hc => List.mem_takeWhile_imp hc, hblank⟩
  calc cs
    _ = cs.takeWhile isBlank ++ cs.dropWhile isBlank := List.takeWhile_append_dropWhile.symm
    _ = cs.takeWhile isBlank ++ (trim cs ++ after) := by rw [hafter]; rfl
    _ = cs.takeWhile isBlank ++ trim cs ++ after := (List.append_assoc _ _ _).symm

lemma dropEndWhile_append {p : Char → Bool} {after : List Char} (h : ∀ c ∈ after, p c = true) (cs : List Char) :
    dropEndWhile p (cs ++ after) = dropEndWhile p cs := by
  have hreverse : ∀ c ∈ after.reverse, p c = true := fun c hc => h c (List.mem_reverse.mp hc)
  rw [dropEndWhile, List.reverse_append, List.dropWhile_append_of_pos hreverse]
  rfl

lemma dropEndWhile_eq_self {p : Char → Bool} {cs : List Char} (h : ∀ c, cs.getLast? = some c → p c = false) :
    dropEndWhile p cs = cs := by
  refine List.rdropWhile_eq_self_iff.mpr fun hne => ?_
  rw [h _ (List.getLast?_eq_some_getLast hne)]
  exact Bool.false_ne_true

lemma trim_append {before after : List Char} (hbefore : ∀ c ∈ before, isBlank c = true)
    (hafter : ∀ c ∈ after, isBlank c = true) (cs : List Char) : trim (before ++ cs ++ after) = trim cs := by
  have hdrop : (cs ++ after).dropWhile isBlank = cs.dropWhile isBlank ++ after ∨
      (cs ++ after).dropWhile isBlank = [] ∧ cs.dropWhile isBlank = [] := by
    rw [List.dropWhile_append]
    split_ifs with hempty
    · right
      exact ⟨List.dropWhile_eq_nil_iff.mpr hafter, List.isEmpty_iff.mp hempty⟩
    · exact .inl rfl
  rw [trim, trimWhile, List.append_assoc, List.dropWhile_append_of_pos hbefore]
  obtain h | ⟨h, hcs⟩ := hdrop
  · rw [h, dropEndWhile_append hafter]
    rfl
  · rw [h, trim, trimWhile, hcs]

lemma trim_eq_self {cs : List Char} (hhead : ∀ c, cs.head? = some c → isBlank c = false)
    (hlast : ∀ c, cs.getLast? = some c → isBlank c = false) : trim cs = cs := by
  have hfront : cs.dropWhile isBlank = cs := by
    cases cs with
    | nil => rfl
    | cons c cs => exact List.dropWhile_cons_of_neg (by simp [hhead c rfl])
  rw [trim, trimWhile, hfront]
  exact dropEndWhile_eq_self hlast

lemma Spells.trim_eq {n : Int} {cs : List Char} (h : Spells cs n) : trim cs = cs :=
  trim_eq_self (fun _ hc => (h.of_mem (List.mem_of_head? hc)).1) fun _ hc => (h.of_mem (List.mem_of_getLast? hc)).1

/-! ## Levels -/

/-- A level as it is written: a whole number between blanks, with percent signs or none behind it. -/
def SpellsLevel (cs : List Char) (n : Int) : Prop :=
  ∃ before numeral gap percents after, cs = before ++ (numeral ++ gap ++ percents) ++ after ∧ Spells numeral n ∧
    (∀ c ∈ before ++ gap ++ after, isBlank c = true) ∧ ∀ c ∈ percents, c = '%'

lemma SpellsLevel.trim_eq {n : Int} {cs : List Char} (h : SpellsLevel cs n) :
    Spells (trim (dropEndWhile (· == '%') (trim cs))) n := by
  obtain ⟨before, numeral, gap, percents, after, rfl, hn, hblank, hpercents⟩ := h
  simp only [List.mem_append, or_imp, forall_and] at hblank
  obtain ⟨⟨hbefore, hgap⟩, hafter⟩ := hblank
  have hnumeral : trim (numeral ++ gap) = numeral := by
    rw [← List.nil_append numeral, trim_append (by simp) hgap, hn.trim_eq]
    rfl
  have hsign : ∀ c ∈ numeral ++ gap, (c == '%') = false := by
    intro c hc
    obtain hc | hc := List.mem_append.mp hc
    · exact beq_false_of_ne (hn.of_mem hc).2
    · refine beq_false_of_ne ?_
      rintro rfl
      exact absurd (hgap '%' hc) (by decide)
  have hdrop : dropEndWhile (· == '%') (numeral ++ gap ++ percents) = numeral ++ gap := by
    rw [dropEndWhile_append fun c hc => by simp [hpercents c hc]]
    exact dropEndWhile_eq_self fun c hc => hsign c (List.mem_of_getLast? hc)
  rw [trim_append hbefore hafter]
  obtain rfl | hne := eq_or_ne percents []
  · -- Without a percent sign the blanks of the gap go with those behind.
    rw [List.append_nil, hnumeral, dropEndWhile_eq_self, hn.trim_eq]
    · exact hn
    · exact fun c hc => beq_false_of_ne (hn.of_mem (List.mem_of_getLast? hc)).2
  · have htrim : trim (numeral ++ gap ++ percents) = numeral ++ gap ++ percents := by
      apply trim_eq_self
      · intro c hc
        obtain ⟨d, ds, hd⟩ := List.exists_cons_of_ne_nil hn.ne_nil
        rw [hd] at hc
        obtain rfl : d = c := by simpa using hc
        exact (hn.of_mem (hd ▸ List.mem_cons_self)).1
      · intro c hc
        rw [List.getLast?_append_of_ne_nil _ hne] at hc
        rw [hpercents c (List.mem_of_getLast? hc)]
        rfl
    rw [htrim, hdrop, hnumeral]
    exact hn

lemma spellsLevel_of_trim {n : Int} {cs : List Char} (h : Spells (trim (dropEndWhile (· == '%') (trim cs))) n) :
    SpellsLevel cs n := by
  obtain ⟨before, after, hcs, hbefore, hafter⟩ := exists_trim cs
  obtain ⟨percents, htrim, hpercents⟩ := exists_dropEndWhile (· == '%') (trim cs)
  obtain ⟨front, gap, hbody, hfront, hgap⟩ := exists_trim (dropEndWhile (· == '%') (trim cs))
  refine ⟨before ++ front, _, gap, percents, after, ?_, h, ?_, fun c hc => by simpa using hpercents c hc⟩
  · calc cs
      _ = before ++ trim cs ++ after := hcs
      _ = before ++ (dropEndWhile (· == '%') (trim cs) ++ percents) ++ after := by rw [← htrim]
      _ = before ++ (front ++ trim (dropEndWhile (· == '%') (trim cs)) ++ gap ++ percents) ++ after := by rw [← hbody]
      _ = _ := by simp only [List.append_assoc]
  · intro c hc
    simp only [List.mem_append] at hc
    obtain ((hc | hc) | hc) | hc := hc
    · exact hbefore c hc
    · exact hfront c hc
    · exact hgap c hc
    · exact hafter c hc

end Text

/-- What a text gives as a level is the whole number that it spells. -/
theorem Action.level?_string {s : String} {n : Int} :
    level? (.string s) = some n ↔ Text.SpellsLevel s.toList n ∧ Text.inInt64 n = true := by
  rw [level?, Text.int64?_eq_some]
  exact and_congr_left fun _ => ⟨Text.spellsLevel_of_trim, Text.SpellsLevel.trim_eq⟩

end DeviceAgent
