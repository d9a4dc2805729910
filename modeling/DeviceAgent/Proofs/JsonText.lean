import DeviceAgent.Proofs.NumberText

/-!
# Values read back from their text

The text of a value is read as the tree of that value, whatever stands behind it, and the tree stands for the value.
Strings need nothing for that; numbers have to be legible and the members of objects in order.
-/

namespace DeviceAgent

namespace Json

/-! ## Strings -/

lemma hexValue?_hexDigit : ∀ n < 16, hexValue? (hexDigit n) = some n := by decide

/-- The unit by which a control character is written. -/
lemma unit?_hexDigit {n : Nat} (h : n < 256) :
    unit? 0x30 0x30 (hexDigit (n / 16)) (hexDigit (n % 16)) = some n := by
  have hzero : hexValue? 0x30 = some 0 := by decide
  have hhigh := hexValue?_hexDigit (n / 16) (by omega)
  have hlow := hexValue?_hexDigit (n % 16) (by omega)
  simp only [unit?, hzero, hhigh, hlow, Option.bind_some, Option.map_some]
  congr 1
  omega

/-- A character below 0x80 is one octet. -/
lemma octets_ofNat {n : Nat} (h : n < 128) : Text.octets (Char.ofNat n).toString = [n.toUInt8] := by
  have hvalid : n.isValidChar := Or.inl (by omega)
  have hval : (Char.ofNat n).val.toNat = n := by
    rw [Char.ofNat, dif_pos hvalid]
    rfl
  have hchar : String.utf8EncodeChar (Char.ofNat n) = [n.toUInt8] := by
    simp only [String.utf8EncodeChar, hval]
    rw [if_pos (by omega)]
  rw [Text.octets_eq_flatMap, Char.toString, String.toList_singleton, List.flatMap_singleton, hchar]

lemma pushUnit_control {n : Nat} (h : n < 32) (reversed : List UInt8) :
    Contents.pushUnit ⟨some reversed, none⟩ n = ⟨some (n.toUInt8 :: reversed), none⟩ := by
  have hhigh : ¬ (0xD800 ≤ n && n ≤ 0xDBFF) = true := by simp; omega
  have hlow : ¬ (0xDC00 ≤ n && n ≤ 0xDFFF) = true := by simp; omega
  simp only [Contents.pushUnit, if_neg hhigh, if_neg hlow, Contents.pushChar, octets_ofNat (show n < 128 by omega)]
  rfl

lemma readString_quote (s : Contents) (rest : List UInt8) :
    readString s (0x22 :: rest) = some (s.finish?, rest) := by
  rw [readString.eq_def]
  rfl

lemma readString_escape {e c : UInt8} (he : e ≠ 0x75) (hc : escape? e = some c) (s : Contents) (rest : List UInt8) :
    readString s (0x5C :: e :: rest) = readString (s.push c) rest := by
  rw [readString.eq_def]
  simp [he, hc]

lemma readString_unit {a b c d : UInt8} {n : Nat} (h : unit? a b c d = some n) (s : Contents) (rest : List UInt8) :
    readString s (0x5C :: 0x75 :: a :: b :: c :: d :: rest) = readString (s.pushUnit n) rest := by
  rw [readString.eq_def]
  simp [h]

lemma readString_plain {b : UInt8} (hquote : b ≠ 0x22) (hback : b ≠ 0x5C) (hcontrol : ¬ b < 0x20) (s : Contents)
    (rest : List UInt8) : readString s (b :: rest) = readString (s.push b) rest := by
  rw [readString.eq_def]
  simp [hquote, hback, hcontrol]

/-- The three ways to write an octet inside a string: by a letter, by its unit, as it is. -/
lemma escapeOctet_cases (b : UInt8) :
    (∃ e, e ≠ 0x75 ∧ escape? e = some b ∧ escapeOctet b = [0x5C, e]) ∨
      (b.toNat < 32 ∧
        escapeOctet b = [0x5C, 0x75, 0x30, 0x30, hexDigit (b.toNat / 16), hexDigit (b.toNat % 16)]) ∨
      (b ≠ 0x22 ∧ b ≠ 0x5C ∧ ¬ b < 0x20 ∧ escapeOctet b = [b]) := by
  by_cases hb : b ∈ ([0x22, 0x5C, 0x08, 0x0C, 0x0A, 0x0D, 0x09] : List UInt8)
  · left
    simp only [List.mem_cons, List.not_mem_nil, or_false] at hb
    obtain rfl | rfl | rfl | rfl | rfl | rfl | rfl := hb
    · exact ⟨0x22, by decide, rfl, rfl⟩
    · exact ⟨0x5C, by decide, rfl, rfl⟩
    · exact ⟨0x62, by decide, rfl, rfl⟩
    · exact ⟨0x66, by decide, rfl, rfl⟩
    · exact ⟨0x6E, by decide, rfl, rfl⟩
    · exact ⟨0x72, by decide, rfl, rfl⟩
    · exact ⟨0x74, by decide, rfl, rfl⟩
  · simp only [List.mem_cons, List.not_mem_nil, or_false, not_or] at hb
    obtain ⟨h22, h5C, h08, h0C, h0A, h0D, h09⟩ := hb
    right
    unfold escapeOctet
    simp only [h22, h5C, h08, h0C, h0A, h0D, h09, if_false]
    by_cases hcontrol : b < 0x20
    · rw [if_pos hcontrol]
      exact Or.inl ⟨hcontrol, rfl⟩
    · rw [if_neg hcontrol]
      exact Or.inr ⟨h22, h5C, hcontrol, rfl⟩

/-- However an octet is written inside a string, it is read as itself. -/
lemma readString_escapeOctet (reversed : List UInt8) (b : UInt8) (rest : List UInt8) :
    readString ⟨some reversed, none⟩ (escapeOctet b ++ rest) = readString ⟨some (b :: reversed), none⟩ rest := by
  obtain ⟨e, he, hb, hw⟩ | ⟨hcontrol, hw⟩ | ⟨hquote, hback, hcontrol, hw⟩ := escapeOctet_cases b
  · rw [hw]
    exact readString_escape he hb _ rest
  · have hunit := readString_unit (unit?_hexDigit (n := b.toNat) (by omega)) ⟨some reversed, none⟩ rest
    rw [pushUnit_control hcontrol, Nat.toUInt8, UInt8.ofNat_toNat] at hunit
    rw [hw]
    exact hunit
  · rw [hw]
    exact readString_plain hquote hback hcontrol _ rest

lemma readString_flatMap (bs reversed rest : List UInt8) :
    readString ⟨some reversed, none⟩ (bs.flatMap escapeOctet ++ 0x22 :: rest) =
      some (Contents.finish? ⟨some (bs.reverse ++ reversed), none⟩, rest) := by
  induction bs generalizing reversed with
  | nil => exact readString_quote _ rest
  | cons b bs ih =>
    rw [List.flatMap_cons, List.append_assoc, readString_escapeOctet, ih]
    simp

/-- A string is read back up to the quote behind it. -/
lemma readString_octets (s : String) (rest : List UInt8) :
    readString ⟨some [], none⟩ ((Text.octets s).flatMap escapeOctet ++ 0x22 :: rest) = some (some s, rest) := by
  rw [readString_flatMap, List.append_nil, Contents.finish?]
  simp [Text.ofOctets?_octets]

/-! ## Values -/

mutual

/-- Every number in the value is legible. -/
def Legible : Json → Prop
  | .number n => n.IsLegible
  | .array items => LegibleItems items
  | .object members => LegibleMembers members
  | _ => True

def LegibleItems : List Json → Prop
  | [] => True
  | v :: rest => v.Legible ∧ LegibleItems rest

def LegibleMembers : List (String × Json) → Prop
  | [] => True
  | (_, v) :: rest => v.Legible ∧ LegibleMembers rest

end

/-- What a value starts with is neither a blank nor the end of an array. -/
lemma print_eq_cons {v : Json} (h : v.Legible) : ∃ b bs, v.print = b :: bs ∧ isSpace b = false ∧ b ≠ 0x5D := by
  cases v with
  | null => exact ⟨_, _, rfl, rfl, by decide⟩
  | bool b => cases b <;> exact ⟨_, _, rfl, rfl, by decide⟩
  | number n =>
    have hsolid : ∀ b ∈ printNumber n, isSpace b = false := fun b => isSpace_of_mem_printNumber
    obtain ⟨text, -, ⟨bs, hbs, -⟩ | ⟨b, bs, hbs, hb, -⟩⟩ := readNumber_of_isLegible (by simpa [Legible] using h)
    · exact ⟨_, _, hbs, rfl, by decide⟩
    · exact ⟨_, _, hbs, isSpace_of_isDigit hb, by rintro rfl; exact Bool.noConfusion hb⟩
  | string s => exact ⟨_, _, rfl, rfl, by decide⟩
  | array items => exact ⟨_, _, rfl, rfl, by decide⟩
  | object members => exact ⟨_, _, rfl, rfl, by decide⟩

lemma readValue_string (s : String) (fuel depth : Nat) (tail : List UInt8) :
    readValue (fuel + 1) depth (printString s ++ tail) = some (.string (some s), tail) := by
  have hskip : skipSpace (printString s ++ tail) = 0x22 :: ((Text.octets s).flatMap escapeOctet ++ 0x22 :: tail) := by
    rw [printString, List.append_assoc]
    rfl
  rw [readValue, hskip]
  dsimp only
  rw [if_pos rfl, readString_octets]
  rfl

lemma readValue_array {b : UInt8} (hb : isSpace b = false) (hend : b ≠ 0x5D) (fuel depth : Nat) (bs : List UInt8) :
    readValue (fuel + 1) (depth + 1) (0x5B :: b :: bs) =
      (readItems fuel depth [] (b :: bs)).map fun (ts, rest) => (.array ts, rest) := by
  rw [readValue, skipSpace_cons rfl]
  dsimp only
  rw [skipSpace_cons hb]
  simp [hend]

lemma readValue_object {b : UInt8} (hb : isSpace b = false) (hend : b ≠ 0x7D) (fuel depth : Nat) (bs : List UInt8) :
    readValue (fuel + 1) (depth + 1) (0x7B :: b :: bs) =
      (readMembers fuel depth [] (b :: bs)).map fun (ms, rest) => (.object ms, rest) := by
  rw [readValue, skipSpace_cons rfl]
  dsimp only
  rw [skipSpace_cons hb]
  simp [hend]

/-- One item is read, then the mark behind it tells whether to go on. -/
lemma readItems_step {fuel depth : Nat} {bs rest : List UInt8} {t : Tree} {b : UInt8}
    (h : readValue fuel depth bs = some (t, b :: rest)) (hb : isSpace b = false) (done : List Tree) :
    readItems (fuel + 1) depth done bs =
      if b = 0x5D then some ((t :: done).reverse, rest)
      else if b = 0x2C then readItems fuel depth (t :: done) rest
      else none := by
  rw [readItems, h]
  dsimp only
  rw [skipSpace_cons hb]

/-- One member is read, then the mark behind it tells whether to go on. -/
lemma readMembers_step {fuel depth : Nat} {key : String} {bs rest : List UInt8} {t : Tree} {b : UInt8}
    (h : readValue fuel depth bs = some (t, b :: rest)) (hb : isSpace b = false) (done : List (Option String × Tree)) :
    readMembers (fuel + 1) depth done (printString key ++ 0x3A :: bs) =
      if b = 0x7D then some (((some key, t) :: done).reverse, rest)
      else if b = 0x2C then readMembers fuel depth ((some key, t) :: done) rest
      else none := by
  have hskip : skipSpace (printString key ++ 0x3A :: bs) =
      0x22 :: ((Text.octets key).flatMap escapeOctet ++ 0x22 :: 0x3A :: bs) := by
    rw [printString, List.append_assoc]
    rfl
  rw [readMembers, hskip]
  dsimp only
  rw [if_pos rfl, readString_octets]
  dsimp only
  rw [skipSpace_cons rfl]
  dsimp only
  rw [if_pos rfl, h]
  dsimp only
  rw [skipSpace_cons hb]

lemma length_print_pos {v : Json} (h : v.Legible) : 0 < v.print.length := by
  obtain ⟨b, bs, hprint, -⟩ := print_eq_cons h
  simp [hprint]

lemma print_array_append (vs : List Json) (tail : List UInt8) :
    (Json.array vs).print ++ tail = 0x5B :: (printItems vs ++ 0x5D :: tail) := by
  simp [print]

lemma print_object_append (members : List (String × Json)) (tail : List UInt8) :
    (Json.object members).print ++ tail = 0x7B :: (printMembers members ++ 0x7D :: tail) := by
  simp [print]

lemma length_print_array (vs : List Json) : (Json.array vs).print.length = (printItems vs).length + 2 := by
  simp [print]

lemma length_print_object (members : List (String × Json)) :
    (Json.object members).print.length = (printMembers members).length + 2 := by
  simp [print]

lemma printItems_eq_cons {v : Json} (h : v.Legible) (vs : List Json) :
    ∃ b bs, printItems (v :: vs) = b :: bs ∧ isSpace b = false ∧ b ≠ 0x5D := by
  obtain ⟨b, bs, hprint, hb⟩ := print_eq_cons h
  cases vs with
  | nil => exact ⟨b, bs, hprint, hb⟩
  | cons w ws => exact ⟨b, _, by rw [printItems.eq_3 _ _ (by simp), hprint, List.cons_append], hb⟩

lemma printMembers_eq_cons (k : String) (v : Json) (members : List (String × Json)) :
    ∃ bs, printMembers ((k, v) :: members) = 0x22 :: bs := by
  cases members <;> exact ⟨_, rfl⟩

/-- With a given fuel the three readers return what was printed, if the text is not longer than the fuel. -/
structure ReadersReturn (fuel : Nat) : Prop where
  value : ∀ {v : Json} {depth : Nat} {tail : List UInt8}, v.Legible → v.print.length ≤ fuel → v.depth ≤ depth →
    Delimits tail → readValue fuel depth (v.print ++ tail) = some (Tree.ofJson v, tail)
  items : ∀ {v : Json} {vs : List Json} {depth : Nat} (done : List Tree) (tail : List UInt8),
    LegibleItems (v :: vs) → (printItems (v :: vs)).length < fuel → depthItems (v :: vs) ≤ depth →
    readItems fuel depth done (printItems (v :: vs) ++ 0x5D :: tail) =
      some (done.reverse ++ Tree.ofItems (v :: vs), tail)
  members : ∀ {k : String} {v : Json} {ms : List (String × Json)} {depth : Nat}
    (done : List (Option String × Tree)) (tail : List UInt8),
    LegibleMembers ((k, v) :: ms) → (printMembers ((k, v) :: ms)).length < fuel →
    depthMembers ((k, v) :: ms) ≤ depth →
    readMembers fuel depth done (printMembers ((k, v) :: ms) ++ 0x7D :: tail) =
      some (done.reverse ++ Tree.ofMembers ((k, v) :: ms), tail)

section

variable {fuel depth : Nat} (ih : ReadersReturn fuel)
include ih

lemma readValue_print {v : Json} {tail : List UInt8} (hv : v.Legible) (hfuel : v.print.length ≤ fuel + 1)
    (hdepth : v.depth ≤ depth) (ht : Delimits tail) :
    readValue (fuel + 1) depth (v.print ++ tail) = some (Tree.ofJson v, tail) := by
  match v, depth with
  | .null, _ => rfl
  | .bool true, _ => rfl
  | .bool false, _ => rfl
  | .number n, depth => exact readValue_number (by simpa [Legible] using hv) fuel depth ht
  | .string s, depth => exact readValue_string s fuel depth tail
  | .array _, 0 | .object _, 0 => simp [Json.depth] at hdepth
  | .array [], depth + 1 => rfl
  | .object [], depth + 1 => rfl
  | .array (w :: ws), depth + 1 =>
    simp only [Legible, length_print_array, Json.depth] at hv hfuel hdepth
    obtain ⟨b, bs, hprint, hb, hend⟩ := printItems_eq_cons hv.1 ws
    have hread := ih.items [] tail hv (by omega) (Nat.le_of_succ_le_succ hdepth)
    rw [hprint, List.cons_append] at hread
    rw [print_array_append, hprint, List.cons_append, readValue_array hb hend, hread]
    rfl
  | .object ((k, w) :: ms), depth + 1 =>
    simp only [Legible, length_print_object, Json.depth] at hv hfuel hdepth
    obtain ⟨bs, hprint⟩ := printMembers_eq_cons k w ms
    have hread := ih.members [] tail hv (by omega) (Nat.le_of_succ_le_succ hdepth)
    rw [hprint, List.cons_append] at hread
    rw [print_object_append, hprint, List.cons_append, readValue_object rfl (by decide), hread]
    rfl

lemma readItems_print {v : Json} {vs : List Json} (done : List Tree) (tail : List UInt8)
    (hvs : LegibleItems (v :: vs)) (hfuel : (printItems (v :: vs)).length < fuel + 1)
    (hdepth : depthItems (v :: vs) ≤ depth) :
    readItems (fuel + 1) depth done (printItems (v :: vs) ++ 0x5D :: tail) =
      some (done.reverse ++ Tree.ofItems (v :: vs), tail) := by
  simp only [LegibleItems, depthItems] at hvs hdepth
  have hfirst : v.depth ≤ depth := by omega
  match vs with
  | [] =>
    simp only [printItems] at hfuel ⊢
    have hread := ih.value hvs.1 (by omega) hfirst (delimits_cons (b := 0x5D) (by simp) tail)
    rw [readItems_step hread rfl, if_pos rfl]
    simp [Tree.ofItems]
  | w :: ws =>
    simp only [printItems, List.length_append, List.length_cons] at hfuel ⊢
    have hread := ih.value hvs.1 (by omega) hfirst
      (delimits_cons (b := 0x2C) (by simp) (printItems (w :: ws) ++ 0x5D :: tail))
    rw [List.append_assoc, List.cons_append, readItems_step hread rfl, if_neg (by decide), if_pos rfl,
      ih.items _ _ hvs.2 (by omega) (by omega)]
    simp [Tree.ofItems]

lemma readMembers_print {k : String} {v : Json} {ms : List (String × Json)} (done : List (Option String × Tree))
    (tail : List UInt8) (hms : LegibleMembers ((k, v) :: ms))
    (hfuel : (printMembers ((k, v) :: ms)).length < fuel + 1) (hdepth : depthMembers ((k, v) :: ms) ≤ depth) :
    readMembers (fuel + 1) depth done (printMembers ((k, v) :: ms) ++ 0x7D :: tail) =
      some (done.reverse ++ Tree.ofMembers ((k, v) :: ms), tail) := by
  simp only [LegibleMembers, depthMembers] at hms hdepth
  have hfirst : v.depth ≤ depth := by omega
  match ms with
  | [] =>
    simp only [printMembers, List.length_append, List.length_cons] at hfuel ⊢
    have hread := ih.value hms.1 (by omega) hfirst (delimits_cons (b := 0x7D) (by simp) tail)
    rw [List.append_assoc, List.cons_append, readMembers_step hread rfl, if_pos rfl]
    simp [Tree.ofMembers]
  | (l, w) :: ms =>
    simp only [printMembers, List.length_append, List.length_cons] at hfuel ⊢
    have hread := ih.value hms.1 (by omega) hfirst
      (delimits_cons (b := 0x2C) (by simp) (printMembers ((l, w) :: ms) ++ 0x7D :: tail))
    rw [List.append_assoc, List.cons_append, List.append_assoc, List.cons_append, readMembers_step hread rfl,
      if_neg (by decide), if_pos rfl, ih.members _ _ hms.2 (by omega) (by omega)]
    simp [Tree.ofMembers]

end

lemma readersReturn (fuel : Nat) : ReadersReturn fuel := by
  induction fuel with
  | zero =>
    refine ⟨fun hv hfuel => ?_, fun _ _ _ hfuel => (Nat.not_lt_zero _ hfuel).elim,
      fun _ _ _ hfuel => (Nat.not_lt_zero _ hfuel).elim⟩
    exact absurd (length_print_pos hv) (Nat.not_lt.mpr hfuel)
  | succ fuel ih => exact ⟨readValue_print ih, readItems_print ih, readMembers_print ih⟩

end Json

/-! ## Order of members -/

namespace Json

/-- A member whose key is behind all others goes to the end. -/
lemma insert_of_forall_lt {k : String} {members : List (String × Json)} (h : ∀ m ∈ members, m.1 < k) (v : Json) :
    insert k v members = members ++ [(k, v)] := by
  induction members with
  | nil => rfl
  | cons m ms ih =>
    have hm : m.1 < k := h m List.mem_cons_self
    rw [insert, if_neg (String.lt_asymm hm), if_pos hm, ih fun m' hm' => h m' (List.mem_cons_of_mem m hm')]
    rfl

/-- Members in strictly increasing order stay as they are. -/
lemma ordered_eq_self {members : List (String × Json)} (h : (members.map Prod.fst).Pairwise (· < ·)) :
    ordered members = members := by
  have hfold : ∀ (ms acc : List (String × Json)), ((acc ++ ms).map Prod.fst).Pairwise (· < ·) →
      ms.foldl (fun acc m => insert m.1 m.2 acc) acc = acc ++ ms := by
    intro ms
    induction ms with
    | nil => exact fun acc _ => (List.append_nil acc).symm
    | cons m ms ih =>
      intro acc hacc
      have hlast : ∀ m' ∈ acc, m'.1 < m.1 := by
        rw [List.pairwise_map, List.pairwise_append] at hacc
        exact fun m' hm' => hacc.2.2 m' hm' m List.mem_cons_self
      rw [List.foldl_cons, insert_of_forall_lt hlast, ih _ (by simpa using hacc)]
      simp
  exact hfold members [] h

end Json

namespace Tree

mutual

/-- The tree of a value stands for a value, and for that value if the members of its objects are in order. -/
theorem value?_ofJson (v : Json) (depth : Nat) (h : v.depth ≤ depth) :
    ∃ w, (ofJson v).value? depth = some w ∧ (v.Canonical → w = v) := by
  match v with
  | .null | .bool _ | .number _ | .string _ => exact ⟨_, rfl, fun _ => rfl⟩
  | .array items =>
    rw [Json.depth] at h
    obtain ⟨ws, hws, heq⟩ := values?_ofItems items (depth - 1) (by omega)
    refine ⟨.array ws, ?_, fun hc => ?_⟩
    · rw [ofJson, value?, if_neg (by omega), hws, Option.map_some]
    · rw [heq (by simpa [Json.Canonical] using hc)]
  | .object members =>
    rw [Json.depth] at h
    obtain ⟨ws, hws, heq⟩ := memberValues?_ofMembers members (depth - 1) (by omega)
    refine ⟨.object (Json.ordered ws), ?_, fun hc => ?_⟩
    · rw [ofJson, value?, if_neg (by omega), hws, Option.map_some]
    · rw [Json.Canonical] at hc
      rw [heq hc.2, Json.ordered_eq_self hc.1]

theorem values?_ofItems (items : List Json) (depth : Nat) (h : Json.depthItems items ≤ depth) :
    ∃ ws, values? depth (ofItems items) = some ws ∧ (Json.CanonicalItems items → ws = items) := by
  match items with
  | [] => exact ⟨[], rfl, fun _ => rfl⟩
  | v :: rest =>
    rw [Json.depthItems] at h
    obtain ⟨w, hw, heq⟩ := value?_ofJson v depth (by omega)
    obtain ⟨ws, hws, heqs⟩ := values?_ofItems rest depth (by omega)
    refine ⟨w :: ws, ?_, fun hc => ?_⟩
    · rw [ofItems, values?, hw, hws]
      rfl
    · rw [heq hc.1, heqs hc.2]

theorem memberValues?_ofMembers (members : List (String × Json)) (depth : Nat)
    (h : Json.depthMembers members ≤ depth) :
    ∃ ws, memberValues? depth (ofMembers members) = some ws ∧ (Json.CanonicalMembers members → ws = members) := by
  match members with
  | [] => exact ⟨[], rfl, fun _ => rfl⟩
  | (k, v) :: rest =>
    rw [Json.depthMembers] at h
    obtain ⟨w, hw, heq⟩ := value?_ofJson v depth (by omega)
    obtain ⟨ws, hws, heqs⟩ := memberValues?_ofMembers rest depth (by omega)
    refine ⟨(k, w) :: ws, ?_, fun hc => ?_⟩
    · rw [ofMembers, memberValues?, hw, hws]
      rfl
    · rw [heq hc.1, heqs hc.2]

end

/-- The text of a value is read as the tree of the value. -/
theorem read?_print {v : Json} (hv : v.Legible) {depth : Nat} (hdepth : v.depth ≤ depth) :
    read? depth v.print = some (ofJson v) := by
  have hread := (Json.readersReturn (2 * v.print.length + 2)).value hv (by omega) hdepth Json.delimits_nil
  rw [List.append_nil] at hread
  rw [read?, hread]
  rfl

end Tree

/-- Reading the text of a value gives the value. -/
theorem Json.read?_print {v : Json} (hv : v.Legible) (hc : v.Canonical) (hdepth : v.depth ≤ Tree.depthLimit) :
    read? v.print = some v := by
  obtain ⟨w, hw, heq⟩ := Tree.value?_ofJson v Tree.depthLimit hdepth
  rw [read?, Tree.read?_print hv hdepth, Option.bind_some, hw, heq hc]

end DeviceAgent
