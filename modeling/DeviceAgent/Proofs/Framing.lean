import DeviceAgent.Frame.Basic
import Mathlib.Tactic.Lemma
import Mathlib.Tactic.ByContra

/-!
# Frames on a stream

The length in front of a payload determines it and is determined by it, so that a reading takes a frame
exactly when the stream starts with one. Octets that arrive later do not change a reading that is settled.
-/

namespace DeviceAgent.Frame

@[simp] lemma length_header (n : Nat) : (header n).length = headerLength := rfl

lemma bigEndian_four (a b c d : UInt8) :
    bigEndian [a, b, c, d] = ((a.toNat * 256 + b.toNat) * 256 + c.toNat) * 256 + d.toNat := by
  simp [bigEndian]

lemma bigEndian_header {n : Nat} (h : n < 4294967296) : bigEndian (header n) = n := by
  rw [header, bigEndian_four]
  simp only [Nat.toUInt8, UInt8.toNat_ofNat']
  omega

lemma toUInt8_eq {n : Nat} {b : UInt8} (h : n % 256 = b.toNat) : n.toUInt8 = b := by
  apply UInt8.toNat_inj.mp
  rw [Nat.toUInt8, UInt8.toNat_ofNat']
  exact h

lemma header_bigEndian {head : List UInt8} (h : head.length = headerLength) : header (bigEndian head) = head := by
  obtain ⟨a, b, c, d, rfl⟩ : ∃ a b c d, head = [a, b, c, d] := by
    match head, h with
    | [a, b, c, d], _ => exact ⟨a, b, c, d, rfl⟩
  have ha := a.toNat_lt
  have hb := b.toNat_lt
  have hc := c.toNat_lt
  have hd := d.toNat_lt
  rw [bigEndian_four, header]
  congr 1
  · exact toUInt8_eq (by omega)
  congr 1
  · exact toUInt8_eq (by omega)
  congr 1
  · exact toUInt8_eq (by omega)
  congr 1
  exact toUInt8_eq (by omega)

/-- The octets of a payload behind its length. -/
def wrap (payload : List UInt8) : List UInt8 := header payload.length ++ payload

@[simp] lemma length_wrap (payload : List UInt8) : (wrap payload).length = headerLength + payload.length := by
  simp [wrap]

/-- A reading with a payload takes its frame off the stream. -/
lemma eq_wrap_of_read {limit : Nat} {stream payload rest : List UInt8}
    (h : read limit stream = ⟨.ok (some payload), rest⟩) :
    stream = wrap payload ++ rest ∧ payload.length ≤ limit := by
  unfold read at h
  dsimp only at h
  split at h
  · simp at h
  · split at h
    · simp at h
    · rename_i hshort
      split at h
      · simp at h
      · rename_i hlarge
        split at h
        · simp at h
        · rename_i hbody
          simp only [Reading.mk.injEq, Except.ok.injEq, Option.some.injEq] at h
          obtain ⟨rfl, rfl⟩ := h
          have hhead : (stream.take headerLength).length = headerLength := by
            have := List.length_take_le headerLength stream
            omega
          have hlength : ((stream.drop headerLength).take (bigEndian (stream.take headerLength))).length =
              bigEndian (stream.take headerLength) := by
            rw [List.length_take]
            omega
          refine ⟨?_, by omega⟩
          rw [wrap, hlength, header_bigEndian hhead, List.append_assoc, List.take_append_drop,
            List.take_append_drop]

lemma length_rest_read (limit : Nat) (stream : List UInt8) : (read limit stream).rest.length ≤ stream.length := by
  unfold read
  dsimp only
  repeat' split
  all_goals simp only [List.length_nil, List.length_drop]
  all_goals omega

lemma take_wrap (payload rest : List UInt8) :
    (wrap payload ++ rest).take headerLength = header payload.length := by
  rw [wrap, List.append_assoc]
  exact List.take_left' rfl

lemma drop_wrap (payload rest : List UInt8) : (wrap payload ++ rest).drop headerLength = payload ++ rest := by
  rw [wrap, List.append_assoc]
  exact List.drop_left' rfl

lemma wrap_inj {p q : List UInt8} (h : wrap p = wrap q) : p = q := by
  have hbody : p ++ [] = q ++ [] := by rw [← drop_wrap p [], h, drop_wrap]
  simpa using hbody

/-- A stream starts with one frame at most. -/
lemma wrap_append_inj {p q x y : List UInt8} (hp : p.length < 4294967296) (hq : q.length < 4294967296)
    (h : wrap p ++ x = wrap q ++ y) : p = q ∧ x = y := by
  have hheader : header p.length = header q.length := by rw [← take_wrap p x, h, take_wrap]
  have hlength : p.length = q.length := by rw [← bigEndian_header hp, hheader, bigEndian_header hq]
  have hbody : p ++ x = q ++ y := by rw [← drop_wrap p x, h, drop_wrap]
  exact List.append_inj hbody hlength

/-- A frame in front of a stream is read. -/
lemma read_wrap {limit : Nat} {payload : List UInt8} (hp : payload.length ≤ limit) (hl : limit < 4294967296)
    (rest : List UInt8) : read limit (wrap payload ++ rest) = ⟨.ok (some payload), rest⟩ := by
  have hne : (wrap payload ++ rest).isEmpty = false := rfl
  have hn : bigEndian (header payload.length) = payload.length := bigEndian_header (by omega)
  unfold read
  dsimp only
  rw [hne, take_wrap, drop_wrap, hn]
  simp [Nat.not_lt.mpr hp]

/-- Octets that do not settle a reading hold no whole frame. -/
lemma settled_of_read {limit : Nat} (hl : limit < 4294967296) {stream payload : List UInt8}
    (h : (read limit stream).outcome = .ok (some payload)) : settled limit stream = true := by
  have hr : read limit stream = ⟨.ok (some payload), (read limit stream).rest⟩ := by rw [← h]
  obtain ⟨hs, hp⟩ := eq_wrap_of_read hr
  have hn : bigEndian (header payload.length) = payload.length := bigEndian_header (by omega)
  rw [hs, settled, take_wrap, drop_wrap, hn]
  simp [Nat.add_assoc]

/-- More octets do not change a reading that is settled. -/
lemma read_append {limit : Nat} {stream : List UInt8} (h : settled limit stream = true) (more : List UInt8) :
    read limit (stream ++ more) = ⟨(read limit stream).outcome, (read limit stream).rest ++ more⟩ := by
  simp only [settled, Bool.and_eq_true, decide_eq_true_eq, Bool.or_eq_true] at h
  obtain ⟨hlength, hn⟩ := h
  have htake : (stream ++ more).take headerLength = stream.take headerLength :=
    List.take_append_of_le_length hlength
  have hdrop : (stream ++ more).drop headerLength = stream.drop headerLength ++ more :=
    List.drop_append_of_le_length hlength
  have hhead : ¬ (stream.take headerLength).length < headerLength := by
    rw [List.length_take]
    omega
  obtain ⟨hne, hne'⟩ : stream.isEmpty = false ∧ (stream ++ more).isEmpty = false := by
    cases stream with
    | nil => simp [headerLength] at hlength
    | cons b stream => exact ⟨rfl, rfl⟩
  unfold read
  dsimp only
  rw [hne, hne', htake, hdrop]
  simp only [Bool.false_eq_true, if_false, hhead]
  by_cases hlarge : limit < bigEndian (stream.take headerLength)
  · rw [if_pos hlarge, if_pos hlarge]
  · have hbody : bigEndian (stream.take headerLength) ≤ (stream.drop headerLength).length :=
      hn.resolve_left hlarge
    have hbody' : ¬ (stream.drop headerLength ++ more).length < bigEndian (stream.take headerLength) := by
      rw [List.length_append]
      omega
    rw [if_neg hlarge, if_neg hlarge, if_neg hbody', if_neg (Nat.not_lt.mpr hbody),
      List.take_append_of_le_length hbody, List.drop_append_of_le_length hbody]

end DeviceAgent.Frame
