import DeviceAgent.Text.Octets
import Mathlib.Data.String.Basic
import Mathlib.Tactic.Lemma
import Mathlib.Tactic.SplitIfs

/-!
# Texts and their octets

Texts are in the order of their octets, and reading the octets of a text gives it back. An octet of ASCII is a character
of its own, behind which a text can be cut.
-/

namespace DeviceAgent.Text

/-! ## Order -/

/-- Of two characters the lesser starts the lesser octets, whatever follows either. -/
lemma utf8EncodeChar_lt {c d : Char} (h : c < d) (xs ys : List UInt8) :
    String.utf8EncodeChar c ++ xs < String.utf8EncodeChar d ++ ys := by
  have hlt : c.val.toNat < d.val.toNat := h
  have hvalid : d.val.toNat < 0xD800 ∨ 0xDFFF < d.val.toNat ∧ d.val.toNat < 0x110000 := d.valid
  -- Both are cut into the same groups of six bits, of which the first that differ decide.
  have h12 (n : Nat) : n / 4096 = n / 64 / 64 := (Nat.div_div_eq_div_mul n 64 64).symm
  have h18 (n : Nat) : n / 262144 = n / 64 / 64 / 64 := by rw [← h12, Nat.div_div_eq_div_mul]
  simp only [String.utf8EncodeChar, h12, h18]
  split_ifs <;>
    simp only [List.cons_append, List.nil_append, List.cons_lt_cons_iff, UInt8.lt_iff_toNat_lt, ← UInt8.toNat_inj,
      UInt8.toNat_ofNat'] <;> omega

lemma octets_lt_of_lt {s t : String} (h : s < t) : octets s < octets t := by
  have hchars : ∀ cs ds : List Char, cs < ds → cs.flatMap String.utf8EncodeChar < ds.flatMap String.utf8EncodeChar := by
    intro cs ds h
    induction h with
    | nil =>
      obtain ⟨b, bs, hb⟩ := List.exists_cons_of_ne_nil (String.utf8EncodeChar_ne_nil (c := _))
      rw [List.flatMap_cons, hb]
      exact List.nil_lt_cons _ _
    | rel h => exact utf8EncodeChar_lt h _ _
    | cons _ ih =>
      rw [List.flatMap_cons, List.flatMap_cons]
      exact List.append_left_lt ih
  rw [octets_eq_flatMap, octets_eq_flatMap]
  exact hchars _ _ (String.lt_iff.mp h)

/-- Texts are in the order of their octets. -/
lemma octets_le_octets {s t : String} : octets s ≤ octets t ↔ s ≤ t := by
  constructor
  · intro h
    by_contra hlt
    exact List.not_lt.mpr h (octets_lt_of_lt (String.not_le.mp hlt))
  · intro h
    obtain h | rfl := lt_or_eq_of_le h
    · exact List.le_of_lt (octets_lt_of_lt h)
    · exact List.le_refl _

/-! ## Reading -/

/-- The octet of the last six bits of a number. -/
def trailing (n : Nat) : UInt8 := UInt8.ofNat (n % 64 + 0x80)

section Reading

variable {b low high : UInt8} {bits due n : Nat}

lemma toNat_trailing (n : Nat) : (trailing n).toNat = n % 64 + 0x80 := by
  rw [trailing, UInt8.toNat_ofNat']
  omega

lemma lossyFrom_lead (h : continuation? b = some (due, low, high)) (rest : List UInt8) :
    lossyFrom none (b :: rest) = lossyFrom (some ⟨b.toNat % 2 ^ (6 - due), due, low, high⟩) rest := by
  have hb : ¬ b < 0x80 := by
    intro hlt
    have hlt : b.toNat < 0x80 := UInt8.lt_iff_toNat_lt.mp hlt
    unfold continuation? at h
    simp only [UInt8.le_iff_toNat_le, ← UInt8.toNat_inj, Bool.and_eq_true, decide_eq_true_eq, UInt8.reduceToNat] at h
    split_ifs at h <;> omega
  rw [lossyFrom, leadOctet, if_neg hb, h]
  rfl

lemma lossyFrom_trailing (hlow : low.toNat ≤ n % 64 + 0x80) (hhigh : n % 64 + 0x80 ≤ high.toNat) (rest : List UInt8) :
    lossyFrom (some ⟨bits, due, low, high⟩) (trailing n :: rest) =
      if due ≤ 1 then Char.ofNat (bits * 64 + n % 64) :: lossyFrom none rest
      else lossyFrom (some ⟨bits * 64 + n % 64, due - 1, 0x80, 0xBF⟩) rest := by
  have hwithin : (low ≤ trailing n && trailing n ≤ high) = true := by
    simp [UInt8.le_iff_toNat_le, toNat_trailing, hlow, hhigh]
  have hbits : (trailing n).toNat % 64 = n % 64 := by
    rw [toNat_trailing]
    omega
  rw [lossyFrom, if_pos hwithin, hbits]

/-- Behind the first two octets of a character, every octet with six bits may follow. -/
lemma lossyFrom_due_one (bits n : Nat) (rest : List UInt8) :
    lossyFrom (some ⟨bits, 1, 0x80, 0xBF⟩) (trailing n :: rest) =
      Char.ofNat (bits * 64 + n % 64) :: lossyFrom none rest :=
  lossyFrom_trailing (Nat.le_add_left _ _) (show n % 64 + 0x80 ≤ 0xBF by omega) rest

lemma lossyFrom_due_two (bits n m : Nat) (rest : List UInt8) :
    lossyFrom (some ⟨bits, 2, 0x80, 0xBF⟩) (trailing m :: trailing n :: rest) =
      Char.ofNat ((bits * 64 + m % 64) * 64 + n % 64) :: lossyFrom none rest := by
  rw [lossyFrom_trailing (Nat.le_add_left _ _) (show m % 64 + 0x80 ≤ 0xBF by omega)]
  exact lossyFrom_due_one _ n rest

end Reading

/-- The first octets of characters of two, three and four octets. -/
lemma continuation?_first :
    (∀ n < 32, 2 ≤ n → continuation? (UInt8.ofNat (n + 0xC0)) = some (1, 0x80, 0xBF)) ∧
      (∀ n < 16, continuation? (UInt8.ofNat (n + 0xE0)) =
        some (2, if n = 0 then 0xA0 else 0x80, if n = 13 then 0x9F else 0xBF)) ∧
      ∀ n < 5, continuation? (UInt8.ofNat (n + 0xF0)) =
        some (3, if n = 0 then 0x90 else 0x80, if n = 4 then 0x8F else 0xBF) :=
  ⟨by decide +kernel, by decide +kernel, by decide +kernel⟩

lemma lossyFrom_utf8EncodeChar (c : Char) (rest : List UInt8) :
    lossyFrom none (String.utf8EncodeChar c ++ rest) = c :: lossyFrom none rest := by
  obtain ⟨htwo, hthree, hfour⟩ := continuation?_first
  have hvalid : c.val.toNat < 0xD800 ∨ 0xDFFF < c.val.toNat ∧ c.val.toNat < 0x110000 := c.valid
  have hc : Char.ofNat c.val.toNat = c := Char.ofNat_toNat c
  unfold String.utf8EncodeChar
  dsimp only
  generalize c.val.toNat = v at hvalid hc ⊢
  split_ifs with h1 h2 h3
  · have hv : (UInt8.ofNat v).toNat = v := by
      rw [UInt8.toNat_ofNat']
      omega
    have hlead : UInt8.ofNat v < 0x80 := UInt8.lt_iff_toNat_lt.mpr (hv.trans_lt (Nat.lt_succ_of_le h1))
    rw [List.singleton_append, lossyFrom, leadOctet, if_pos hlead, hv, hc]
    rfl
  · have hlead := htwo (v / 64 % 32) (by omega) (by omega)
    have hbits : (UInt8.ofNat (v / 64 % 32 + 0xC0)).toNat % 2 ^ (6 - 1) = v / 64 := by
      rw [UInt8.toNat_ofNat']
      omega
    show lossyFrom none (_ :: trailing v :: rest) = _
    rw [lossyFrom_lead hlead, hbits, lossyFrom_due_one, Nat.div_add_mod', hc]
  · have hlead := hthree (v / 4096 % 16) (by omega)
    have hbits : (UInt8.ofNat (v / 4096 % 16 + 0xE0)).toNat % 2 ^ (6 - 2) = v / 4096 := by
      rw [UInt8.toNat_ofNat']
      omega
    have hsum : (v / 4096 * 64 + v / 64 % 64) * 64 + v % 64 = v := by omega
    show lossyFrom none (_ :: trailing (v / 64) :: trailing v :: rest) = _
    rw [lossyFrom_lead hlead, hbits, lossyFrom_trailing]
    · exact (lossyFrom_due_one _ v rest).trans (by rw [hsum, hc])
    · split_ifs
      · show 0xA0 ≤ _
        omega
      · exact Nat.le_add_left _ _
    · split_ifs
      · show _ ≤ 0x9F
        omega
      · show _ ≤ 0xBF
        omega
  · have hlead := hfour (v / 262144 % 8) (by omega)
    have hbits : (UInt8.ofNat (v / 262144 % 8 + 0xF0)).toNat % 2 ^ (6 - 3) = v / 262144 := by
      rw [UInt8.toNat_ofNat']
      omega
    have hsum : ((v / 262144 * 64 + v / 4096 % 64) * 64 + v / 64 % 64) * 64 + v % 64 = v := by omega
    show lossyFrom none (_ :: trailing (v / 4096) :: trailing (v / 64) :: trailing v :: rest) = _
    rw [lossyFrom_lead hlead, hbits, lossyFrom_trailing]
    · exact (lossyFrom_due_two _ v (v / 64) rest).trans (by rw [hsum, hc])
    · split_ifs
      · show 0x90 ≤ _
        omega
      · exact Nat.le_add_left _ _
    · split_ifs
      · show _ ≤ 0x8F
        omega
      · show _ ≤ 0xBF
        omega

/-- The octets of a text are read as that text. -/
lemma lossy_octets (s : String) : lossy (octets s) = s := by
  have hchars : ∀ cs : List Char, lossyFrom none (cs.flatMap String.utf8EncodeChar) = cs := by
    intro cs
    induction cs with
    | nil => rfl
    | cons c cs ih => rw [List.flatMap_cons, lossyFrom_utf8EncodeChar, ih]
  rw [lossy, octets_eq_flatMap, hchars, String.ofList_toList]

/-! ## Octets of ASCII -/

lemma utf8EncodeChar_eq_singleton {c : Char} {b : UInt8} (hb : b < 0x80) (h : b ∈ String.utf8EncodeChar c) :
    String.utf8EncodeChar c = [b] := by
  have hsize : c.utf8Size = 1 := by
    have hc : c.toNat = b.toNat := toNat_eq_of_mem_utf8EncodeChar hb h
    have hlt : b.toNat < 128 := hb
    rw [Char.utf8Size_eq_one_iff, UInt32.le_iff_toNat_le]
    show c.toNat ≤ 127
    omega
  rw [String.utf8EncodeChar_eq_singleton hsize] at h ⊢
  rw [List.mem_singleton.mp h]

/-- A character that has an octet of ASCII is the one of that octet. -/
lemma eq_of_mem_utf8EncodeChar {c d : Char} {b : UInt8} (hb : b < 0x80) (hd : d.toNat = b.toNat)
    (h : b ∈ String.utf8EncodeChar c) : c = d :=
  Char.ext (UInt32.toNat_inj.mp ((toNat_eq_of_mem_utf8EncodeChar hb h).trans hd.symm))

section Ends

variable {text : String} {c : Char} {b : UInt8}

lemma head?_of_octets (hb : b < 0x80) (hc : c.toNat = b.toNat) (h : (octets text).head? = some b) :
    text.toList.head? = some c := by
  rw [octets_eq_flatMap] at h
  cases htext : text.toList with
  | nil => simp [htext] at h
  | cons d ds =>
    obtain ⟨x, xs, hx⟩ := List.exists_cons_of_ne_nil (String.utf8EncodeChar_ne_nil (c := d))
    obtain rfl : x = b := by simpa [htext, hx] using h
    have hd : d = c := eq_of_mem_utf8EncodeChar hb hc (by rw [hx]; exact List.mem_cons_self)
    rw [hd, List.head?_cons]

lemma getLast?_of_octets (hb : b < 0x80) (hc : c.toNat = b.toNat) (h : (octets text).getLast? = some b) :
    text.toList.getLast? = some c := by
  rw [octets_eq_flatMap] at h
  obtain htext | ⟨ds, d, htext⟩ := List.eq_nil_or_concat text.toList
  · simp [htext] at h
  · rw [List.concat_eq_append] at htext
    have hlast : (String.utf8EncodeChar d).getLast? = some b := by
      rwa [htext, List.flatMap_append, List.flatMap_singleton,
        List.getLast?_append_of_ne_nil _ String.utf8EncodeChar_ne_nil] at h
    have hd : d = c := eq_of_mem_utf8EncodeChar hb hc (List.mem_of_getLast? hlast)
    rw [htext, hd, List.getLast?_concat]

end Ends

/-- A text can be cut behind every octet of ASCII. -/
lemma exists_append_of_octets {text : String} {before behind : List UInt8} {b : UInt8} (hb : b < 0x80)
    (h : octets text = before ++ b :: behind) :
    ∃ front back : String, text = front ++ back ∧ octets front = before ++ [b] ∧ octets back = behind := by
  have hchars : ∀ (cs : List Char) (before : List UInt8), cs.flatMap String.utf8EncodeChar = before ++ b :: behind →
      ∃ front back, cs = front ++ back ∧ front.flatMap String.utf8EncodeChar = before ++ [b] ∧
        back.flatMap String.utf8EncodeChar = behind := by
    intro cs
    induction cs with
    | nil => simp
    | cons c cs ih =>
      intro before hcs
      -- The octet belongs to a later character, or it is all there is of this one.
      have hlater (middle : List UInt8) (hmiddle : before = String.utf8EncodeChar c ++ middle)
          (hrest : cs.flatMap String.utf8EncodeChar = middle ++ b :: behind) :
          ∃ front back, c :: cs = front ++ back ∧ front.flatMap String.utf8EncodeChar = before ++ [b] ∧
            back.flatMap String.utf8EncodeChar = behind := by
        obtain ⟨front, back, rfl, hfront, hback⟩ := ih middle hrest
        exact ⟨c :: front, back, rfl, by rw [List.flatMap_cons, hfront, hmiddle, List.append_assoc], hback⟩
      rw [List.flatMap_cons] at hcs
      obtain ⟨middle, hmiddle, hrest⟩ | ⟨own, hown, hrest⟩ := List.append_eq_append_iff.mp hcs
      · exact hlater middle hmiddle hrest
      · cases own with
        | nil => exact hlater [] (by simpa using hown.symm) hrest.symm
        | cons b' own =>
          obtain ⟨rfl, hbehind⟩ := List.cons.inj hrest
          have hsingle := utf8EncodeChar_eq_singleton hb (by rw [hown]; simp)
          rw [hsingle] at hown
          obtain ⟨rfl, hnil⟩ | ⟨-, hnil⟩ := List.append_eq_singleton_iff.mp hown.symm
          · obtain ⟨-, rfl⟩ := List.cons.inj hnil
            exact ⟨[c], cs, rfl, by simp [hsingle], hbehind.symm⟩
          · exact absurd hnil (List.cons_ne_nil _ _)
  rw [octets_eq_flatMap] at h
  obtain ⟨front, back, hcs, hfront, hback⟩ := hchars _ _ h
  refine ⟨.ofList front, .ofList back, ?_, ?_, ?_⟩
  · rw [← String.ofList_append, ← hcs, String.ofList_toList]
  · rw [octets_eq_flatMap, String.toList_ofList, hfront]
  · rw [octets_eq_flatMap, String.toList_ofList, hback]

end DeviceAgent.Text
