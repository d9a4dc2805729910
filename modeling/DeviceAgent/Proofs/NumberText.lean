import DeviceAgent.Json.Printer
import DeviceAgent.Proofs.EmbeddedIntent

/-!
# Numbers read back from their text

The text of a whole number is read as that number. Of a fraction it has to be known that its digits are read back;
then they are, whatever stands behind them that no number could go on with.
-/

namespace DeviceAgent

namespace Json

/-! ## The parts of a number -/

/-- Nothing that a number could go on with stands in front. -/
def Delimits (bs : List UInt8) : Prop :=
  ∀ b ∈ bs.head?, isDigit b = false ∧ b ≠ 0x2E ∧ b ≠ 0x65 ∧ b ≠ 0x45

lemma delimits_nil : Delimits [] := by simp [Delimits]

lemma delimits_cons {b : UInt8} (h : b ∈ ([0x2C, 0x5D, 0x7D] : List UInt8)) (rest : List UInt8) :
    Delimits (b :: rest) := by
  simp only [List.mem_cons, List.not_mem_nil, or_false] at h
  rintro b' ⟨⟩
  obtain rfl | rfl | rfl := h <;> decide

lemma spanDigits_append {tail : List UInt8} (ht : Delimits tail) {bs ds rest : List UInt8}
    (h : spanDigits bs = (ds, rest)) : spanDigits (bs ++ tail) = (ds, rest ++ tail) := by
  simp only [spanDigits, Prod.mk.injEq] at h ⊢
  obtain ⟨rfl, rfl⟩ := h
  induction bs with
  | nil =>
    cases tail with
    | nil => exact ⟨rfl, rfl⟩
    | cons b tail => simp [(ht b rfl).1]
  | cons b bs ih => cases hb : isDigit b <;> simp [hb, ih]

lemma readWhole_append {tail : List UInt8} (ht : Delimits tail) {bs ds rest : List UInt8}
    (h : readWhole bs = some (ds, rest)) : readWhole (bs ++ tail) = some (ds, rest ++ tail) := by
  unfold readWhole at h ⊢
  rcases hspan : spanDigits bs with ⟨digits, behind⟩
  rw [hspan] at h
  rw [spanDigits_append ht hspan]
  match digits with
  | [] => simp at h
  | [d] => simpa using h
  | d :: e :: ds => split at h <;> simp_all

lemma readFraction_append {tail : List UInt8} (ht : Delimits tail) {bs rest : List UInt8}
    {ds : Option (List UInt8)} (h : readFraction bs = some (ds, rest)) :
    readFraction (bs ++ tail) = some (ds, rest ++ tail) := by
  cases bs with
  | nil =>
    obtain ⟨rfl, rfl⟩ : none = ds ∧ [] = rest := by simpa [readFraction] using h
    cases tail with
    | nil => rfl
    | cons b tail => simp [readFraction, (ht b rfl).2.1]
  | cons b bs =>
    rw [List.cons_append]
    unfold readFraction at h ⊢
    dsimp only at h ⊢
    by_cases hb : b = 0x2E
    · rw [if_pos hb] at h ⊢
      rcases hspan : spanDigits bs with ⟨digits, behind⟩
      rw [hspan] at h
      rw [spanDigits_append ht hspan]
      cases digits with
      | nil => simp at h
      | cons d digits => simpa using h
    · rw [if_neg hb] at h ⊢
      obtain ⟨rfl, rfl⟩ : none = ds ∧ b :: bs = rest := by simpa using h
      rfl

lemma readSign_append {tail : List UInt8} (bs : List UInt8) (h : (spanDigits (readSign bs).2).1 ≠ []) :
    readSign (bs ++ tail) = ((readSign bs).1, (readSign bs).2 ++ tail) := by
  cases bs with
  | nil => exact (h rfl).elim
  | cons b bs =>
    rw [List.cons_append, readSign, readSign]
    split_ifs <;> rfl

lemma readExponent_append {tail : List UInt8} (ht : Delimits tail) {bs rest : List UInt8}
    {e : Option (Bool × List UInt8)} (h : readExponent bs = some (e, rest)) :
    readExponent (bs ++ tail) = some (e, rest ++ tail) := by
  cases bs with
  | nil =>
    obtain ⟨rfl, rfl⟩ : none = e ∧ [] = rest := by simpa [readExponent] using h
    cases tail with
    | nil => rfl
    | cons b tail => simp [readExponent, (ht b rfl).2.2.1, (ht b rfl).2.2.2]
  | cons b bs =>
    rw [List.cons_append]
    unfold readExponent at h ⊢
    dsimp only at h ⊢
    by_cases hb : (b = 0x65 || b = 0x45) = true
    · rw [if_pos hb] at h ⊢
      rcases hspan : spanDigits (readSign bs).2 with ⟨digits, behind⟩
      rw [hspan] at h
      cases digits with
      | nil => simp at h
      | cons d digits =>
        rw [readSign_append bs (by simp [hspan]), spanDigits_append ht hspan]
        simpa using h
    · rw [if_neg hb] at h ⊢
      obtain ⟨rfl, rfl⟩ : none = e ∧ b :: bs = rest := by simpa using h
      rfl

/-- A number is read the same when more stands behind it. -/
lemma readNumber_append {tail : List UInt8} (ht : Delimits tail) {negative : Bool} {bs rest : List UInt8}
    {t : NumberText} (h : readNumber negative bs = some (t, rest)) :
    readNumber negative (bs ++ tail) = some (t, rest ++ tail) := by
  simp only [readNumber, Option.bind_eq_some_iff, Option.map_eq_some_iff, Prod.exists, Prod.mk.injEq] at h ⊢
  obtain ⟨whole, r₁, hw, fraction, r₂, hf, exponent, r₃, he, ht', rfl⟩ := h
  exact ⟨whole, _, readWhole_append ht hw, fraction, _, readFraction_append ht hf, exponent, _,
    readExponent_append ht he, ht', rfl⟩

/-! ## Whole numbers -/

lemma toNat_ascii {c : Char} (h : c.isDigit = true) :
    c.toNat.toUInt8.toNat = c.toNat ∧ '0'.toNat ≤ c.toNat ∧ c.toNat ≤ '9'.toNat := by
  obtain ⟨hlow, hhigh⟩ : 48 ≤ c.toNat ∧ c.toNat ≤ 57 := by
    simpa [Char.isDigit, UInt32.le_iff_toNat_le] using h
  refine ⟨?_, hlow, hhigh⟩
  rw [Nat.toUInt8, UInt8.toNat_ofNat']
  omega

lemma isDigit_ascii {c : Char} (h : c.isDigit = true) : isDigit c.toNat.toUInt8 = true := by
  obtain ⟨hoctet, hlow, hhigh⟩ := toNat_ascii h
  simp only [isDigit, Bool.and_eq_true, decide_eq_true_eq, UInt8.le_iff_toNat_le, hoctet]
  exact ⟨hlow, hhigh⟩

lemma digitValue_ascii {c : Char} (h : c.isDigit = true) : digitValue c.toNat.toUInt8 = c.toNat - '0'.toNat := by
  rw [digitValue, (toNat_ascii h).1]
  rfl

lemma digitChar_ne_zero : ∀ n < 10, 0 < n → Nat.digitChar n ≠ '0' := by decide

/-- The digits of a whole number do not start with a zero. -/
lemma head?_toDigits {n : Nat} (h : 0 < n) : (Nat.toDigits 10 n).head? ≠ some '0' := by
  induction n using Nat.strongRecOn with
  | ind n ih =>
    rw [Nat.toDigits_eq_if (by decide)]
    by_cases hn : n < 10
    · rw [if_pos hn, List.head?_singleton, ne_eq, Option.some.injEq]
      exact digitChar_ne_zero n hn h
    · have hfront := ih (n / 10) (by omega) (by omega)
      rw [if_neg hn, List.head?_append]
      cases hd : Nat.toDigits 10 (n / 10) with
      | nil => exact (Nat.toDigits_ne_nil hd).elim
      | cons c cs =>
        rw [hd] at hfront
        exact hfront

lemma digitsValue_ascii {cs : List Char} (h : ∀ c ∈ cs, c.isDigit = true) :
    digitsValue (ascii cs) = Nat.ofDigitChars 10 cs 0 := by
  have hfold : ∀ n, (ascii cs).foldl (fun n d => n * 10 + digitValue d) n = Nat.ofDigitChars 10 cs n := by
    induction cs with
    | nil => exact fun _ => rfl
    | cons c cs ih =>
      intro n
      rw [Nat.ofDigitChars_cons, ← ih fun c' hc => h c' (List.mem_cons_of_mem c hc), ascii, List.map_cons,
        List.foldl_cons, digitValue_ascii (h c List.mem_cons_self), Nat.mul_comm]
      rfl
  exact hfold 0

/-- The octets of the digits of a number. -/
def digits (n : Nat) : List UInt8 := ascii (Nat.toDigits 10 n)

lemma isDigit_of_mem_toDigits {n : Nat} {c : Char} (h : c ∈ Nat.toDigits 10 n) : c.isDigit = true :=
  Nat.isDigit_of_mem_toDigits (by decide) (by decide) h

lemma isDigit_of_mem_digits {n : Nat} {b : UInt8} (h : b ∈ digits n) : isDigit b = true := by
  obtain ⟨c, hc, rfl⟩ := List.mem_map.mp h
  exact isDigit_ascii (isDigit_of_mem_toDigits hc)

lemma digitsValue_digits (n : Nat) : digitsValue (digits n) = n := by
  rw [digits, digitsValue_ascii fun c => isDigit_of_mem_toDigits, Nat.ofDigitChars_toDigits (by decide) (by decide)]

lemma spanDigits_digits (n : Nat) : spanDigits (digits n) = (digits n, []) := by
  simp only [spanDigits, Prod.mk.injEq]
  exact ⟨List.takeWhile_eq_self_iff.mpr fun b => isDigit_of_mem_digits,
    List.dropWhile_eq_nil_iff.mpr fun b => isDigit_of_mem_digits⟩

/-- Only zero itself starts with a zero. -/
lemma head?_digits {n : Nat} (h : 0 < n) : (digits n).head? ≠ some 0x30 := by
  cases hd : Nat.toDigits 10 n with
  | nil => exact (Nat.toDigits_ne_nil hd).elim
  | cons c cs =>
    rw [digits, hd]
    intro hzero
    have hoctet : c.toNat.toUInt8 = 0x30 := Option.some.inj hzero
    have hdigit : c.isDigit = true := isDigit_of_mem_toDigits (n := n) (by simp [hd])
    have hval : c.toNat = '0'.toNat := by
      rw [← (toNat_ascii hdigit).1, hoctet]
      rfl
    have hc : c = '0' := Char.ext (UInt32.toNat_inj.mp hval)
    exact head?_toDigits h (by rw [hd, hc, List.head?_cons])

lemma readWhole_digits (n : Nat) : readWhole (digits n) = some (digits n, []) := by
  unfold readWhole
  rw [spanDigits_digits]
  by_cases hn : n = 0
  · subst hn
    rfl
  · have hfirst := head?_digits (Nat.pos_of_ne_zero hn)
    rcases hd : digits n with _ | ⟨b, _ | ⟨b', bs⟩⟩
    · exact (Nat.toDigits_ne_nil (List.map_eq_nil_iff.mp hd)).elim
    · rfl
    · rw [hd] at hfirst
      exact if_neg fun hb => hfirst (congrArg some hb)

lemma readNumber_digits (negative : Bool) (n : Nat) :
    readNumber negative (digits n) = some (⟨negative, digits n, none, none⟩, []) := by
  rw [readNumber, readWhole_digits]
  rfl

lemma digits_eq_cons (n : Nat) : ∃ b bs, digits n = b :: bs ∧ isDigit b = true := by
  cases hd : digits n with
  | nil => exact (Nat.toDigits_ne_nil (List.map_eq_nil_iff.mp hd)).elim
  | cons b bs => exact ⟨b, bs, rfl, isDigit_of_mem_digits (n := n) (by simp [hd])⟩

lemma printNumber_natCast (n : Nat) : printNumber (.int n) = digits n := by
  rw [printNumber, Int.toString_eq_repr]
  exact congrArg ascii Nat.toList_repr

lemma printNumber_negSucc (n : Nat) : printNumber (.int (Int.negSucc n)) = 0x2D :: digits (n + 1) := by
  have hrepr : (Int.negSucc n).repr = "-" ++ (n + 1).repr := rfl
  rw [printNumber, Int.toString_eq_repr, hrepr, String.toList_append, Nat.toList_repr]
  rfl

/-! ## The text of a number -/

lemma readValue_minus (fuel depth : Nat) (bs : List UInt8) :
    readValue (fuel + 1) depth (0x2D :: bs) =
      (readNumber true bs).map fun (t, rest) => (.number t.number?, rest) := by
  rw [readValue]
  rfl

/-- No value but a number starts with a digit. -/
lemma not_mem_of_isDigit {b : UInt8} (h : isDigit b = true) :
    b ∉ ([0x22, 0x7B, 0x5B, 0x6E, 0x74, 0x66, 0x2D] : List UInt8) := by
  simp only [List.mem_cons, List.not_mem_nil, or_false]
  rintro (rfl | rfl | rfl | rfl | rfl | rfl | rfl) <;> exact Bool.noConfusion h

lemma isSpace_of_isDigit {b : UInt8} (h : isDigit b = true) : isSpace b = false := by
  by_contra hspace
  simp only [isSpace, Bool.not_eq_false, Bool.or_eq_true, beq_iff_eq, or_assoc] at hspace
  obtain rfl | rfl | rfl | rfl := hspace <;> exact Bool.noConfusion h

lemma skipSpace_cons {b : UInt8} (h : isSpace b = false) (bs : List UInt8) : skipSpace (b :: bs) = b :: bs := by
  rw [skipSpace, List.dropWhile_cons_of_neg (by simp [h])]

lemma readValue_digit {b : UInt8} (h : isDigit b = true) (fuel depth : Nat) (bs : List UInt8) :
    readValue (fuel + 1) depth (b :: bs) =
      (readNumber false (b :: bs)).map fun (t, rest) => (.number t.number?, rest) := by
  have hne := not_mem_of_isDigit h
  simp only [List.mem_cons, List.not_mem_nil, or_false, not_or] at hne
  obtain ⟨h22, h7B, h5B, h6E, h74, h66, h2D⟩ := hne
  rw [readValue, skipSpace_cons (isSpace_of_isDigit h)]
  simp only [h22, h7B, h5B, h6E, h74, h66, h2D, h, if_false, if_true]

lemma read?_number {bs : List UInt8} {n : Number}
    (h : ∀ fuel depth, readValue (fuel + 1) depth bs = some (.number (some n), [])) :
    read? bs = some (.number n) := by
  rw [read?, Tree.read?, h]
  rfl

lemma number?_digits_natCast {n : Nat} (h : n < 18446744073709551616) :
    NumberText.number? ⟨false, digits n, none, none⟩ = some (.int n) := by
  have hn : n < Nat.pow 2 64 := h
  simp [NumberText.number?, digitsValue_digits, hn]

lemma number?_digits_neg {n : Nat} (hpos : 0 < n) (h : n ≤ 9223372036854775808) :
    NumberText.number? ⟨true, digits n, none, none⟩ = some (.int (-(n : Int))) := by
  have hn : n ≤ Nat.pow 2 63 := h
  simp [NumberText.number?, digitsValue_digits, hpos, hn]

end Json

/-- A number whose text is read as itself. -/
def Number.IsLegible (n : Number) : Prop := Json.read? (Json.printNumber n) = some (.number n)

namespace Json

/-- A whole number in a 64-bit word is legible. -/
theorem isLegible_int {n : Int} (hlow : -9223372036854775808 ≤ n) (hhigh : n < 18446744073709551616) :
    (Number.int n).IsLegible := by
  apply read?_number
  intro fuel depth
  cases n with
  | ofNat n =>
    obtain ⟨b, bs, hd, hb⟩ := digits_eq_cons n
    rw [Int.ofNat_eq_natCast] at hhigh ⊢
    rw [printNumber_natCast, hd, readValue_digit hb, ← hd, readNumber_digits]
    simp only [Option.map_some]
    rw [number?_digits_natCast (by omega)]
  | negSucc n =>
    rw [printNumber_negSucc, readValue_minus, readNumber_digits]
    simp only [Option.map_some]
    rw [number?_digits_neg (by omega) (by omega)]
    rfl

/-- One half is a legible fraction. -/
lemma isLegible_half : (Number.float ⟨false, 4503599627370496, -53⟩).IsLegible := by
  have htext : printNumber (.float ⟨false, 4503599627370496, -53⟩) = [0x30, 0x2E, 0x35] := by decide +kernel
  have hwhole : takeDigits 0 [0x30] = (0, 0) := by decide
  have hfraction : takeDigits 0 [0x35] = (5, 0) := by decide
  have hfive : Binary64.ofNat? 5 = some ⟨false, 5629499534213120, -50⟩ := by decide +kernel
  have hten : Binary64.powerOfTen? 1 = some ⟨false, 5629499534213120, -49⟩ := by decide +kernel
  have hquotient : Binary64.div? ⟨false, 5629499534213120, -50⟩ ⟨false, 5629499534213120, -49⟩ =
      some ⟨false, 4503599627370496, -53⟩ := by decide +kernel
  have hscale : Binary64.scale? ⟨false, 5629499534213120, -50⟩ (-1) = some ⟨false, 4503599627370496, -53⟩ := by
    rw [Binary64.scale?]
    simp [Binary64.isZero, Binary64.greatestPower, hten, hquotient]
  have hvalue : NumberText.float? ⟨false, [0x30], some [0x35], none⟩ = some ⟨false, 4503599627370496, -53⟩ := by
    simp [NumberText.float?, hwhole, hfraction, hfive, hscale]
  have hread : readNumber false [0x30, 0x2E, 0x35] = some (⟨false, [0x30], some [0x35], none⟩, []) := rfl
  rw [Number.IsLegible, htext]
  apply read?_number
  intro fuel depth
  rw [readValue_digit (by decide), hread]
  simp [NumberText.number?, hvalue]

lemma eq_number_of_value? {limit : Nat} {t : Tree} {n : Number} (h : t.value? limit = some (.number n)) :
    t = .number (some n) := by
  cases t <;> simp_all [Tree.value?]

/-- Only the text of a number gives a number. -/
lemma readNumber_of_readValue {fuel depth : Nat} {bs rest : List UInt8} {n : Number} :
    readValue fuel depth bs = some (.number (some n), rest) →
    ∃ text, text.number? = some n ∧ ((∃ bs', skipSpace bs = 0x2D :: bs' ∧ readNumber true bs' = some (text, rest)) ∨
      ∃ b bs', skipSpace bs = b :: bs' ∧ isDigit b = true ∧ readNumber false (b :: bs') = some (text, rest)) := by
  fun_cases readValue fuel depth bs with
  | case15 fuel _ _ bs' hskip =>
    simp only [Option.map_eq_some_iff, Prod.exists, Prod.mk.injEq, Tree.number.injEq]
    rintro ⟨text, _, h, hn, rfl⟩
    exact ⟨text, hn, Or.inl ⟨bs', hskip, h⟩⟩
  | case16 fuel _ _ b bs' hskip hb =>
    simp only [Option.map_eq_some_iff, Prod.exists, Prod.mk.injEq, Tree.number.injEq]
    rintro ⟨text, _, h, hn, rfl⟩
    exact ⟨text, hn, Or.inr ⟨b, bs', hskip, by assumption, h⟩⟩
  | _ => simp

/-! ## No blanks in numbers -/

/-- A character of number texts. -/
def IsNumeric (c : Char) : Prop := c.isDigit = true ∨ c ∈ ['.', '-', '+', 'e']

lemma isSpace_of_isNumeric {c : Char} (h : IsNumeric c) : isSpace c.toNat.toUInt8 = false := by
  obtain hdigit | hmark := h
  · exact isSpace_of_isDigit (isDigit_ascii hdigit)
  · simp only [List.mem_cons, List.not_mem_nil, or_false] at hmark
    obtain rfl | rfl | rfl | rfl := hmark <;> rfl

lemma isSpace_of_mem_ascii {cs : List Char} (h : ∀ c ∈ cs, IsNumeric c) {b : UInt8} (hb : b ∈ ascii cs) :
    isSpace b = false := by
  obtain ⟨c, hc, rfl⟩ := List.mem_map.mp hb
  exact isSpace_of_isNumeric (h c hc)

lemma isNumeric_toDigits (n : Nat) : ∀ c ∈ Nat.toDigits 10 n, IsNumeric c :=
  fun _ hc => Or.inl (isDigit_of_mem_toDigits hc)

lemma isNumeric_shortest (x : Binary64) : ∀ c ∈ x.shortest.1, IsNumeric c := by
  intro c hc
  refine isNumeric_toDigits (Binary64.shortestFrom x (Binary64.pointAfter x.ratio.1 x.ratio.2) 1 18).1 c ?_
  exact List.mem_reverse.mp ((List.dropWhile_sublist _).subset (List.mem_reverse.mp hc))

lemma isNumeric_exponentText (e : Int) : ∀ c ∈ Binary64.exponentText e, IsNumeric c := by
  have hdigits := isNumeric_toDigits e.natAbs
  unfold Binary64.exponentText
  split_ifs <;> simp [IsNumeric] at hdigits ⊢ <;> exact hdigits

lemma isNumeric_replicate (n : Nat) : ∀ c ∈ List.replicate n '0', IsNumeric c := by
  intro c hc
  rw [List.eq_of_mem_replicate hc]
  exact Or.inl rfl

lemma isNumeric_text (x : Binary64) : ∀ c ∈ x.text, IsNumeric c := by
  have hzeros := isNumeric_replicate
  have hexponent := isNumeric_exponentText
  have hsign : ∀ c ∈ (if x.negative then ['-'] else []), IsNumeric c := by
    split_ifs <;> simp [IsNumeric]
  have hmark : ∀ c ∈ ['.', '0'], IsNumeric c := by simp [IsNumeric]
  have hdigits := isNumeric_shortest x
  have htake : ∀ n, ∀ c ∈ x.shortest.1.take n, IsNumeric c := fun n c hc => hdigits c (List.mem_of_mem_take hc)
  have hdrop : ∀ n, ∀ c ∈ x.shortest.1.drop n, IsNumeric c := fun n c hc => hdigits c (List.mem_of_mem_drop hc)
  unfold Binary64.text
  rcases hs : x.shortest with ⟨digits, k⟩
  rw [hs] at hdigits htake hdrop
  dsimp only at hdigits htake hdrop ⊢
  split_ifs <;> try split
  all_goals grind

lemma isSpace_of_mem_printNumber {n : Number} {b : UInt8} (hb : b ∈ printNumber n) : isSpace b = false := by
  cases n with
  | int n =>
    cases n with
    | ofNat n =>
      rw [Int.ofNat_eq_natCast, printNumber_natCast] at hb
      exact isSpace_of_isDigit (isDigit_of_mem_digits hb)
    | negSucc n =>
      rw [printNumber_negSucc] at hb
      obtain rfl | hb := List.mem_cons.mp hb
      · rfl
      · exact isSpace_of_isDigit (isDigit_of_mem_digits hb)
  | float x => exact isSpace_of_mem_ascii (isNumeric_text x) hb

lemma skipSpace_eq_self {bs : List UInt8} (h : ∀ b ∈ bs, isSpace b = false) : skipSpace bs = bs := by
  cases bs with
  | nil => rfl
  | cons b bs => exact skipSpace_cons (h b List.mem_cons_self) bs

/-- A legible number is written as one number text and nothing else. -/
lemma readNumber_of_isLegible {n : Number} (h : n.IsLegible) :
    ∃ text, text.number? = some n ∧
      ((∃ bs, printNumber n = 0x2D :: bs ∧ readNumber true bs = some (text, [])) ∨
        ∃ b bs, printNumber n = b :: bs ∧ isDigit b = true ∧ readNumber false (b :: bs) = some (text, [])) := by
  have hsolid : ∀ b ∈ printNumber n, isSpace b = false := fun b => isSpace_of_mem_printNumber
  simp only [Number.IsLegible, read?, Option.bind_eq_some_iff] at h
  obtain ⟨t, hread, hvalue⟩ := h
  obtain rfl := eq_number_of_value? hvalue
  rw [Tree.read?] at hread
  split at hread
  · next t rest hrest =>
    rw [Option.ite_none_right_eq_some, Option.some.injEq, List.isEmpty_iff] at hread
    obtain ⟨hblank, rfl⟩ := hread
    have hsuffix : rest ⊆ printNumber n := by
      obtain ⟨used, hused, -⟩ := (readersCross _).value hrest
      exact hused ▸ List.subset_append_right used rest
    obtain rfl : rest = [] := by rwa [skipSpace_eq_self fun b hb => hsolid b (hsuffix hb)] at hblank
    have htext := readNumber_of_readValue hrest
    rwa [skipSpace_eq_self hsolid] at htext
  · simp at hread

/-- A legible number is read back up to where no number could go on. -/
lemma readValue_number {n : Number} (h : n.IsLegible) (fuel depth : Nat) {tail : List UInt8} (ht : Delimits tail) :
    readValue (fuel + 1) depth (printNumber n ++ tail) = some (.number (some n), tail) := by
  obtain ⟨text, hn, ⟨bs, hbs, hread⟩ | ⟨b, bs, hbs, hb, hread⟩⟩ := readNumber_of_isLegible h
  · rw [hbs, List.cons_append, readValue_minus, readNumber_append ht hread]
    simp [hn]
  · have hmore := readNumber_append ht hread
    rw [List.cons_append] at hmore
    rw [hbs, List.cons_append, readValue_digit hb, hmore]
    simp [hn]

end Json

end DeviceAgent
