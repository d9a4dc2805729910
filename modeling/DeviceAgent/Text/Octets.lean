/-!
# Octets of a text

UTF-8 as lists of octets: the octets of a string, the string behind octets that are well formed, and a
reading of any octets that puts a replacement character where they are not.
-/

namespace DeviceAgent.Text

def octets (s : String) : List UInt8 :=
  s.toByteArray.data.toList

/-- The string with these UTF-8 octets, if they are well formed. -/
def ofOctets? (bs : List UInt8) : Option String :=
  String.fromUTF8? ⟨bs.toArray⟩

theorem ofOctets?_octets (s : String) : ofOctets? (octets s) = some s := by
  have h : (⟨(octets s).toArray⟩ : ByteArray) = s.toByteArray := by simp [octets]
  rw [ofOctets?, h, String.fromUTF8?]
  simp [s.isValidUTF8, String.fromUTF8]

theorem octets_of_ofOctets? {bs : List UInt8} {s : String} (h : ofOctets? bs = some s) :
    octets s = bs := by
  simp only [ofOctets?, String.fromUTF8?] at h
  split at h
  · injection h with h
    subst h
    simp [octets, String.fromUTF8]
  · simp at h

theorem octets_append (s t : String) : octets (s ++ t) = octets s ++ octets t := by
  simp [octets, String.toByteArray_append]

theorem octets_eq_flatMap (s : String) : octets s = s.toList.flatMap String.utf8EncodeChar := by
  rw [octets, ← String.utf8Encode_toList, List.utf8Encode, List.data_toByteArray]

/-- An octet below 0x80 stands for itself. -/
theorem toNat_eq_of_mem_utf8EncodeChar {c : Char} {b : UInt8} (hb : b < 0x80)
    (h : b ∈ String.utf8EncodeChar c) : c.toNat = b.toNat := by
  have hv : b.toNat < 128 := hb
  unfold String.utf8EncodeChar at h
  simp only at h
  have hc : c.toNat = c.val.toNat := rfl
  split at h
  · simp only [List.mem_singleton] at h
    subst h
    rw [UInt8.toNat_ofNat', Nat.mod_eq_of_lt (by omega), hc]
  · exfalso
    split at h
    · simp only [List.mem_cons, List.not_mem_nil, or_false] at h
      rcases h with rfl | rfl <;> rw [UInt8.toNat_ofNat'] at hv <;> omega
    · split at h
      · simp only [List.mem_cons, List.not_mem_nil, or_false] at h
        rcases h with rfl | rfl | rfl <;> rw [UInt8.toNat_ofNat'] at hv <;> omega
      · simp only [List.mem_cons, List.not_mem_nil, or_false] at h
        rcases h with rfl | rfl | rfl | rfl <;> rw [UInt8.toNat_ofNat'] at hv <;> omega

/-- The number of continuation octets after a lead octet, and the range of the first of them. -/
def continuation? (lead : UInt8) : Option (Nat × UInt8 × UInt8) :=
  if 0xC2 ≤ lead && lead ≤ 0xDF then some (1, 0x80, 0xBF)
  else if lead = 0xE0 then some (2, 0xA0, 0xBF)
  else if lead = 0xED then some (2, 0x80, 0x9F)
  else if 0xE1 ≤ lead && lead ≤ 0xEF then some (2, 0x80, 0xBF)
  else if lead = 0xF0 then some (3, 0x90, 0xBF)
  else if 0xF1 ≤ lead && lead ≤ 0xF3 then some (3, 0x80, 0xBF)
  else if lead = 0xF4 then some (3, 0x80, 0x8F)
  else none

/-- A character under way: the bits read so far, the continuation octets still due and the range of the
next one. -/
structure Partial where
  bits : Nat
  due : Nat
  low : UInt8
  high : UInt8

/-- The character that stands for octets that are not well formed. -/
def replacement : Char := Char.ofNat 0xFFFD

/-- Reads a first octet: a finished character, a character under way, or an octet out of place. -/
def leadOctet (b : UInt8) : Option Partial × List Char :=
  if b < 0x80 then (none, [Char.ofNat b.toNat])
  else match continuation? b with
    | some (due, low, high) => (some ⟨b.toNat % Nat.pow 2 (6 - due), due, low, high⟩, [])
    | none => (none, [replacement])

/-- Reads any octets: each longest start of a character that breaks off, and each octet that can start none,
becomes one replacement character. -/
def lossyFrom (pending : Option Partial) : List UInt8 → List Char
  | [] => if pending.isSome then [replacement] else []
  | b :: rest =>
    match pending with
    | some p =>
      if p.low ≤ b && b ≤ p.high then
        let bits := p.bits * 64 + b.toNat % 64
        if p.due ≤ 1 then Char.ofNat bits :: lossyFrom none rest
        else lossyFrom (some ⟨bits, p.due - 1, 0x80, 0xBF⟩) rest
      else
        let (next, out) := leadOctet b
        replacement :: (out ++ lossyFrom next rest)
    | none =>
      let (next, out) := leadOctet b
      out ++ lossyFrom next rest

/-- The text of any octets, with replacement characters where they are not UTF-8. -/
def lossy (bs : List UInt8) : String :=
  String.ofList (lossyFrom none bs)

end DeviceAgent.Text
