import DeviceAgent.Client.Basic
import DeviceAgent.Daemon.Connection
import DeviceAgent.Frame.Pieces
import DeviceAgent.Proofs.Framing

/-!
# Reading a stream in pieces

However a stream is cut into pieces, one reading after another takes the frames at its start and then stops: at
a clean end, at a length above the limit, or inside a frame that breaks off. Frames that were written are read
back, and a payload that does not decode costs no more than its own frame.
-/

namespace DeviceAgent

namespace Frame

/-! ## Pieces and their octets -/

/-- Filling takes octets off the front, wherever the pieces are cut. -/
lemma flatten_fill (n : Nat) (pieces : Pieces) :
    (fill n pieces).1 = pieces.flatten.take n ∧ (fill n pieces).2.flatten = pieces.flatten.drop n := by
  induction pieces generalizing n with
  | nil => simp [fill]
  | cons p ps ih =>
    rw [fill]
    by_cases hn : n = 0
    · rw [if_pos hn, hn]
      simp
    · rw [if_neg hn]
      by_cases hp : p.length ≤ n
      · obtain ⟨htake, hdrop⟩ := ih (n - p.length)
        rw [if_pos hp]
        dsimp only
        rw [htake, hdrop, List.flatten_cons, List.take_append, List.drop_append, List.take_of_length_le hp,
          List.drop_of_length_le hp]
        exact ⟨rfl, rfl⟩
      · have hle : n ≤ p.length := by omega
        rw [if_neg hp, List.flatten_cons, List.take_append_of_le_length hle, List.drop_append_of_le_length hle]
        exact ⟨rfl, rfl⟩

/-- A reading off pieces is the reading off their octets. -/
lemma readPieces_eq_read (limit : Nat) (pieces : Pieces) :
    (readPieces limit pieces).outcome = (read limit pieces.flatten).outcome ∧
      (readPieces limit pieces).rest.flatten = (read limit pieces.flatten).rest := by
  obtain ⟨hhead, hbehind⟩ := flatten_fill headerLength pieces
  have hempty : (pieces.flatten.take headerLength).isEmpty = pieces.flatten.isEmpty := by
    cases pieces.flatten <;> rfl
  unfold readPieces read
  dsimp only
  rw [hhead, hempty]
  by_cases he : pieces.flatten.isEmpty
  · rw [if_pos he, if_pos he]
    rw [List.isEmpty_iff.mp he] at hbehind
    exact ⟨rfl, hbehind⟩
  · rw [if_neg he, if_neg he]
    by_cases hshort : (pieces.flatten.take headerLength).length < headerLength
    · have hle : pieces.flatten.length ≤ headerLength := by
        rw [List.length_take] at hshort
        omega
      rw [if_pos hshort, if_pos hshort]
      exact ⟨rfl, hbehind.trans (List.drop_of_length_le hle)⟩
    · rw [if_neg hshort, if_neg hshort]
      by_cases hlarge : limit < bigEndian (pieces.flatten.take headerLength)
      · rw [if_pos hlarge, if_pos hlarge]
        exact ⟨rfl, hbehind⟩
      · obtain ⟨hpayload, hrest⟩ :=
          flatten_fill (bigEndian (pieces.flatten.take headerLength)) (fill headerLength pieces).2
        rw [hbehind] at hpayload hrest
        rw [if_neg hlarge, if_neg hlarge, hpayload, List.length_take]
        by_cases hbody : (pieces.flatten.drop headerLength).length < bigEndian (pieces.flatten.take headerLength)
        · rw [if_pos (by omega), if_pos hbody]
          exact ⟨rfl, hrest.trans (List.drop_of_length_le (Nat.le_of_lt hbody))⟩
        · rw [if_neg (by omega), if_neg hbody]
          exact ⟨rfl, hrest⟩

/-! ## One reading after another -/

/-- What so many readings come to, one after another, and the pieces behind them. -/
def readings {α : Type} (reader : Pieces → PieceReading α) :
    (n : Nat) → Pieces → List (Except Failure (Option α)) × Pieces
  | 0, pieces => ([], pieces)
  | n + 1, pieces =>
    let behind := readings reader n (reader pieces).rest
    ((reader pieces).outcome :: behind.1, behind.2)

lemma readings_succ_last {α : Type} (reader : Pieces → PieceReading α) (n : Nat) (pieces : Pieces) :
    readings reader (n + 1) pieces =
      ((readings reader n pieces).1 ++ [(reader (readings reader n pieces).2).outcome],
        (reader (readings reader n pieces).2).rest) := by
  induction n generalizing pieces with
  | zero => rfl
  | succ n ih =>
    rw [readings, ih]
    rfl

/-- Messages are read as frames are, and each payload is decoded. -/
lemma readings_readMessage {α : Type} (decode : List UInt8 → Option α) (limit n : Nat) (pieces : Pieces) :
    readings (readMessage decode limit) n pieces =
      ((readings (readPieces limit) n pieces).1.map (decoded decode), (readings (readPieces limit) n pieces).2) := by
  induction n generalizing pieces with
  | zero => rfl
  | succ n ih =>
    simp only [readings, readMessage, List.map_cons]
    rw [ih]

/-- The outcome of reading a message off the frame of a payload. -/
def answer {α : Type} (decode : List UInt8 → Option α) (payload : List UInt8) : Except Failure (Option α) :=
  match decode payload with
  | some message => .ok (some message)
  | none => .error .malformed

lemma map_decoded {α : Type} (decode : List UInt8 → Option α) (payloads : List (List UInt8)) :
    (payloads.map fun payload => .ok (some payload)).map (decoded decode) = payloads.map (answer decode) := by
  rw [List.map_map]
  rfl

/-! ## Frames that are written -/

/-- The octets that an attempt to write a payload puts on a stream. -/
def written (limit : Nat) (payload : List UInt8) : List UInt8 :=
  match write limit payload with
  | .ok octets => octets
  | .error _ => []

/-- The octets of attempts one after another. -/
def writtenAll (limit : Nat) (payloads : List (List UInt8)) : List UInt8 :=
  payloads.flatMap (written limit)

lemma written_of_le {limit : Nat} {payload : List UInt8} (h : payload.length ≤ limit) :
    written limit payload = wrap payload := by
  rw [written, write, if_neg (Nat.not_lt.mpr h)]
  rfl

lemma write_of_lt {limit : Nat} {payload : List UInt8} (h : limit < payload.length) :
    write limit payload = .error (.tooLarge payload.length limit) := if_pos h

/-- Attempts that are refused leave no trace. -/
lemma writtenAll_filter (limit : Nat) (payloads : List (List UInt8)) :
    writtenAll limit (payloads.filter fun payload => payload.length ≤ limit) = writtenAll limit payloads := by
  induction payloads with
  | nil => rfl
  | cons payload payloads ih =>
    by_cases hp : payload.length ≤ limit
    · rw [List.filter_cons_of_pos (by simpa using hp)]
      exact congrArg (written limit payload ++ ·) ih
    · have hnone : written limit payload = [] := by rw [written, write_of_lt (Nat.not_le.mp hp)]
      rw [List.filter_cons_of_neg (by simpa using hp), ih, writtenAll, writtenAll, List.flatMap_cons, hnone,
        List.nil_append]

/-! ## Where reading stops -/

/-- The outcome with which reading stops. -/
def stop {α : Type} : Option Failure → Except Failure (Option α)
  | none => .ok none
  | some e => .error e

/-- How reading stops on octets that start with no frame: with which failure, none at a clean end, and in front
of which octets. -/
structure Stops (limit : Nat) (last : List UInt8) (failure : Option Failure) (left : List UInt8) : Prop where
  clean : failure = none ↔ last = []
  tooLarge : ∀ n bound, failure = some (.tooLarge n bound) ↔
    headerLength ≤ last.length ∧ n = bigEndian (last.take headerLength) ∧ limit < n ∧ bound = limit
  truncated : failure = some .truncated ↔ (0 < last.length ∧ last.length < headerLength) ∨
    (headerLength ≤ last.length ∧ bigEndian (last.take headerLength) ≤ limit ∧
      (last.drop headerLength).length < bigEndian (last.take headerLength))
  wellFormed : failure ≠ some .malformed
  /-- Of a frame that is too large the length is gone, and nothing else. -/
  left : left = if headerLength ≤ last.length ∧ limit < bigEndian (last.take headerLength)
    then last.drop headerLength else []

lemma stops_clean (limit : Nat) : Stops limit [] none [] := by
  constructor <;> simp [headerLength]

lemma stops_tooLarge {limit : Nat} {last : List UInt8} (h : headerLength ≤ last.length)
    (hl : limit < bigEndian (last.take headerLength)) :
    Stops limit last (some (.tooLarge (bigEndian (last.take headerLength)) limit)) (last.drop headerLength) where
  clean := by
    have hne : last ≠ [] := by
      rintro rfl
      simp [headerLength] at h
    simp [hne]
  tooLarge n bound := by
    constructor
    · intro hf
      injection hf with hf
      injection hf with hn hb
      exact ⟨h, hn.symm, hn ▸ hl, hb.symm⟩
    · rintro ⟨-, rfl, -, rfl⟩
      rfl
  truncated := by
    have hnot : ¬ ((0 < last.length ∧ last.length < headerLength) ∨
        (headerLength ≤ last.length ∧ bigEndian (last.take headerLength) ≤ limit ∧
          (last.drop headerLength).length < bigEndian (last.take headerLength))) := by
      rintro (⟨-, hs⟩ | ⟨-, hs, -⟩) <;> omega
    simp only [Option.some.injEq, reduceCtorEq, false_iff]
    exact hnot
  wellFormed := by simp
  left := (if_pos ⟨h, hl⟩).symm

lemma stops_truncated {limit : Nat} {last : List UInt8}
    (h : (0 < last.length ∧ last.length < headerLength) ∨
      (headerLength ≤ last.length ∧ bigEndian (last.take headerLength) ≤ limit ∧
        (last.drop headerLength).length < bigEndian (last.take headerLength))) :
    Stops limit last (some .truncated) [] where
  clean := by
    have hne : last ≠ [] := by
      rintro rfl
      simp [headerLength] at h
    simp [hne]
  tooLarge n bound := by
    have hnot : ¬ (headerLength ≤ last.length ∧ n = bigEndian (last.take headerLength) ∧ limit < n ∧
        bound = limit) := by
      rintro ⟨hle, rfl, hl, -⟩
      omega
    simp only [Option.some.injEq, reduceCtorEq, false_iff]
    exact hnot
  truncated := ⟨fun _ => h, fun _ => rfl⟩
  wellFormed := by simp
  left := by
    rw [if_neg]
    rintro ⟨hle, hl⟩
    omega

/-- A reading takes a frame off a stream or stops. -/
lemma read_cases (limit : Nat) (stream : List UInt8) :
    (∃ payload rest, read limit stream = ⟨.ok (some payload), rest⟩) ∨
      ∃ failure left, read limit stream = ⟨stop failure, left⟩ ∧ Stops limit stream failure left := by
  unfold read
  dsimp only
  by_cases he : stream.isEmpty
  · obtain rfl := List.isEmpty_iff.mp he
    exact Or.inr ⟨none, [], rfl, stops_clean limit⟩
  · have hpos : 0 < stream.length := List.length_pos_iff.mpr (by simpa using he)
    have htake : (stream.take headerLength).length = min headerLength stream.length := List.length_take
    rw [if_neg he]
    by_cases hshort : (stream.take headerLength).length < headerLength
    · rw [if_pos hshort]
      exact Or.inr ⟨some .truncated, [], rfl, stops_truncated (Or.inl ⟨hpos, by omega⟩)⟩
    · have hle : headerLength ≤ stream.length := by omega
      rw [if_neg hshort]
      by_cases hlarge : limit < bigEndian (stream.take headerLength)
      · rw [if_pos hlarge]
        exact Or.inr ⟨some (.tooLarge _ limit), _, rfl, stops_tooLarge hle hlarge⟩
      · rw [if_neg hlarge]
        by_cases hbody : (stream.drop headerLength).length < bigEndian (stream.take headerLength)
        · rw [if_pos hbody]
          have hbroken := stops_truncated (Or.inr ⟨hle, Nat.not_lt.mp hlarge, hbody⟩)
          exact Or.inr ⟨some .truncated, [], rfl, hbroken⟩
        · rw [if_neg hbody]
          exact Or.inl ⟨_, _, rfl⟩

/-! ## The frames of a stream -/

/-- The payloads that readings take off a stream, and the octets behind them. -/
inductive Carries (limit : Nat) : List UInt8 → List (List UInt8) → List UInt8 → Prop
  | done (stream : List UInt8) : Carries limit stream [] stream
  | frame {stream payload rest last : List UInt8} {payloads : List (List UInt8)}
    (hr : read limit stream = ⟨.ok (some payload), rest⟩) (h : Carries limit rest payloads last) :
    Carries limit stream (payload :: payloads) last

namespace Carries

variable {limit : Nat} {stream last : List UInt8} {payloads : List (List UInt8)}

/-- What a stream carries was written to it. -/
lemma eq_written (h : Carries limit stream payloads last) :
    stream = writtenAll limit payloads ++ last ∧ ∀ payload ∈ payloads, payload.length ≤ limit := by
  induction h with
  | done stream => exact ⟨rfl, by simp⟩
  | @frame stream payload rest last payloads hr _ ih =>
    obtain ⟨hstream, hp⟩ := eq_wrap_of_read hr
    obtain ⟨hrest, hall⟩ := ih
    have hwritten : writtenAll limit (payload :: payloads) = wrap payload ++ writtenAll limit payloads := by
      rw [writtenAll, List.flatMap_cons, written_of_le hp]
      rfl
    exact ⟨by rw [hstream, hrest, hwritten, List.append_assoc], by simpa using ⟨hp, hall⟩⟩

/-- What is written to a stream is carried by it. -/
lemma of_written (hl : limit < 4294967296) (hp : ∀ payload ∈ payloads, payload.length ≤ limit)
    (last : List UInt8) : Carries limit (writtenAll limit payloads ++ last) payloads last := by
  induction payloads with
  | nil => exact .done last
  | cons payload payloads ih =>
    have hfirst : payload.length ≤ limit := hp payload List.mem_cons_self
    have hstream : writtenAll limit (payload :: payloads) ++ last =
        wrap payload ++ (writtenAll limit payloads ++ last) := by
      rw [writtenAll, List.flatMap_cons, written_of_le hfirst, List.append_assoc]
      rfl
    rw [hstream]
    exact .frame (read_wrap hfirst hl _) (ih fun other ho => hp other (List.mem_cons_of_mem _ ho))

/-- Fewer readings leave the frames behind them on the stream. -/
lemma take (h : Carries limit stream payloads last) (n : Nat) :
    Carries limit stream (payloads.take n) (writtenAll limit (payloads.drop n) ++ last) := by
  induction h generalizing n with
  | done stream =>
    rw [List.take_nil, List.drop_nil]
    exact .done stream
  | frame hr h ih =>
    cases n with
    | zero =>
      rw [List.take_zero, List.drop_zero, ← (Carries.frame hr h).eq_written.1]
      exact .done _
    | succ n => exact .frame hr (ih n)

/-- The readings of a stream are its payloads, wherever its pieces are cut. -/
lemma readings_eq (h : Carries limit stream payloads last) {pieces : Pieces} (hp : pieces.flatten = stream) :
    (readings (readPieces limit) payloads.length pieces).1 = payloads.map (fun payload => .ok (some payload)) ∧
      (readings (readPieces limit) payloads.length pieces).2.flatten = last := by
  induction h generalizing pieces with
  | done stream => exact ⟨rfl, hp⟩
  | frame hr h ih =>
    obtain ⟨houtcome, hrest⟩ := readPieces_eq_read limit pieces
    rw [hp, hr] at houtcome hrest
    obtain ⟨hfirst, hlast⟩ := ih hrest
    simp only [readings, List.length_cons, List.map_cons]
    exact ⟨by rw [houtcome, hfirst], hlast⟩

end Carries

/-- Any stream carries frames up to where reading stops. -/
lemma exists_carries (limit : Nat) (stream : List UInt8) :
    ∃ payloads last failure left, Carries limit stream payloads last ∧ read limit last = ⟨stop failure, left⟩ ∧
      Stops limit last failure left := by
  induction hn : stream.length using Nat.strongRecOn generalizing stream with
  | ind n ih =>
    obtain ⟨payload, rest, hr⟩ | ⟨failure, left, hr, hs⟩ := read_cases limit stream
    · have hlt : rest.length < n := by
        rw [← hn, (eq_wrap_of_read hr).1, List.length_append, length_wrap, headerLength]
        omega
      obtain ⟨payloads, last, failure, left, hc, hlast⟩ := ih _ hlt rest rfl
      exact ⟨payload :: payloads, last, failure, left, .frame hr hc, hlast⟩
    · exact ⟨[], stream, failure, left, .done stream, hr, hs⟩

/-- The readings up to the one that stops. -/
lemma readings_stop {limit : Nat} {stream last left : List UInt8} {payloads : List (List UInt8)}
    {failure : Option Failure} (h : Carries limit stream payloads last) (hs : read limit last = ⟨stop failure, left⟩)
    {pieces : Pieces} (hp : pieces.flatten = stream) :
    (readings (readPieces limit) (payloads.length + 1) pieces).1 =
        payloads.map (fun payload => .ok (some payload)) ++ [stop failure] ∧
      (readings (readPieces limit) (payloads.length + 1) pieces).2.flatten = left := by
  obtain ⟨hfirst, hlast⟩ := h.readings_eq hp
  obtain ⟨houtcome, hrest⟩ := readPieces_eq_read limit (readings (readPieces limit) payloads.length pieces).2
  rw [hlast, hs] at houtcome hrest
  rw [readings_succ_last, hfirst, houtcome]
  exact ⟨rfl, hrest⟩

/-- With patience for one more reading than there are frames, all of them are read. -/
lemma readMany_eq {limit fuel : Nat} {pieces : Pieces} {payloads : List (List UInt8)} {failure : Option Failure}
    (hf : payloads.length < fuel)
    (h : (readings (readPieces limit) (payloads.length + 1) pieces).1 =
      payloads.map (fun payload => .ok (some payload)) ++ [stop failure]) :
    readMany limit fuel pieces =
      ⟨payloads, failure, (readings (readPieces limit) (payloads.length + 1) pieces).2⟩ := by
  induction payloads generalizing fuel pieces with
  | nil =>
    obtain ⟨fuel, rfl⟩ := Nat.exists_eq_succ_of_ne_zero (Nat.ne_of_gt hf)
    rcases hr : readPieces limit pieces with ⟨outcome, rest⟩
    obtain rfl : outcome = stop failure := by simpa [readings, hr] using h
    cases failure <;> simp [readMany, readings, hr, stop]
  | cons payload payloads ih =>
    obtain ⟨fuel, rfl⟩ := Nat.exists_eq_succ_of_ne_zero (Nat.ne_of_gt (Nat.zero_lt_of_lt hf))
    rcases hr : readPieces limit pieces with ⟨outcome, rest⟩
    rw [List.length_cons, readings, hr] at h ⊢
    rw [List.map_cons, List.cons_append] at h
    injection h with houtcome hrest
    dsimp only at houtcome
    rw [readMany, hr, houtcome]
    dsimp only
    rw [ih (Nat.lt_of_succ_lt_succ hf) hrest]

/-- Each frame takes an octet at least. -/
lemma length_le_writtenAll {limit : Nat} {payloads : List (List UInt8)}
    (h : ∀ payload ∈ payloads, payload.length ≤ limit) : payloads.length ≤ (writtenAll limit payloads).length := by
  induction payloads with
  | nil => exact Nat.zero_le _
  | cons payload payloads ih =>
    have hrest := ih fun other ho => h other (List.mem_cons_of_mem _ ho)
    rw [writtenAll, List.flatMap_cons, List.length_append, written_of_le (h payload List.mem_cons_self), length_wrap,
      List.length_cons, headerLength]
    rw [writtenAll] at hrest
    omega

/-- Reading all frames is reading up to the one that stops. -/
lemma readAll_eq {limit : Nat} {stream last left : List UInt8} {payloads : List (List UInt8)}
    {failure : Option Failure} (h : Carries limit stream payloads last) (hs : read limit last = ⟨stop failure, left⟩)
    {pieces : Pieces} (hp : pieces.flatten = stream) :
    (readAll limit pieces).payloads = payloads ∧ (readAll limit pieces).failure = failure ∧
      (readAll limit pieces).rest.flatten = left := by
  obtain ⟨houtcomes, hleft⟩ := readings_stop h hs hp
  have hlength : payloads.length < pieces.flatten.length + 1 := by
    obtain ⟨hstream, hall⟩ := h.eq_written
    have := length_le_writtenAll hall
    rw [hp, hstream, List.length_append]
    omega
  rw [readAll, readMany_eq hlength houtcomes]
  exact ⟨rfl, rfl, hleft⟩

/-- Payloads that are written one after another are read back, wherever the stream is cut into pieces: the
readings give those within the limit in their order and then come to a clean end with no octet left. A payload
above the limit is refused and puts nothing on the stream. -/
theorem frames_read_back {limit : Nat} (hl : limit < 4294967296) (payloads : List (List UInt8)) :
    let kept := payloads.filter fun payload => payload.length ≤ limit
    (∀ payload ∈ payloads, limit < payload.length →
      write limit payload = .error (.tooLarge payload.length limit)) ∧
    ∀ pieces : Pieces, pieces.flatten = writtenAll limit payloads →
      (readings (readPieces limit) (kept.length + 1) pieces).1 =
          kept.map (fun payload => .ok (some payload)) ++ [.ok none] ∧
        (readings (readPieces limit) (kept.length + 1) pieces).2.flatten = [] ∧
        (readAll limit pieces).payloads = kept ∧ (readAll limit pieces).failure = none ∧
        (readAll limit pieces).rest.flatten = [] := by
  intro kept
  have hkept : ∀ payload ∈ kept, payload.length ≤ limit := by
    intro payload hp
    simpa using (List.mem_filter.mp hp).2
  have hcarries : Carries limit (writtenAll limit payloads) kept [] := by
    have h := Carries.of_written hl hkept []
    rwa [List.append_nil, writtenAll_filter] at h
  have hend : read limit [] = ⟨stop none, []⟩ := rfl
  refine ⟨fun payload _ hp => write_of_lt hp, ?_⟩
  intro pieces hp
  obtain ⟨houtcomes, hleft⟩ := readings_stop hcarries hend hp
  exact ⟨houtcomes, hleft, readAll_eq hcarries hend hp⟩

/-- Three payloads, the second too large, in pieces that cut both headers and payloads. -/
theorem frames_read_back_cut :
    (readAll 2 [[0, 0], [0], [2, 7], [8, 0, 0, 0], [0]]).payloads = [[7, 8], []] ∧
      (readAll 2 [[0, 0], [0], [2, 7], [8, 0, 0, 0], [0]]).rest.flatten = [] ∧
      write 2 [1, 2, 3] = .error (.tooLarge 3 2) := by
  have hl : 2 < 4294967296 := by decide
  have h := frames_read_back hl [[7, 8], [1, 2, 3], []]
  obtain ⟨-, -, hpayloads, -, hrest⟩ := h.2 [[0, 0], [0], [2, 7], [8, 0, 0, 0], [0]] rfl
  exact ⟨hpayloads, hrest, h.1 [1, 2, 3] (by decide) (by decide)⟩

/-- Every stream is frames within the limit and octets at which reading stops, and for each cut of it into pieces
the readings are these: each gives a frame and leaves what is behind it, until the last stops as it does on
the octets that remain. Reading messages goes the same way, and a payload that does not decode costs its own frame
only. -/
theorem stream_readings (limit : Nat) (stream : List UInt8) :
    ∃ payloads last failure left, stream = writtenAll limit payloads ++ last ∧
      (∀ payload ∈ payloads, payload.length ≤ limit) ∧ Stops limit last failure left ∧
      ∀ pieces : Pieces, pieces.flatten = stream →
        (∀ n ≤ payloads.length,
          (readings (readPieces limit) n pieces).1 = (payloads.take n).map (fun payload => .ok (some payload)) ∧
          (readings (readPieces limit) n pieces).2.flatten = writtenAll limit (payloads.drop n) ++ last) ∧
        (readings (readPieces limit) (payloads.length + 1) pieces).1 =
          payloads.map (fun payload => .ok (some payload)) ++ [stop failure] ∧
        (readings (readPieces limit) (payloads.length + 1) pieces).2.flatten = left ∧
        ((readAll limit pieces).payloads = payloads ∧ (readAll limit pieces).failure = failure ∧
          (readAll limit pieces).rest.flatten = left) ∧
        ∀ {α : Type} (decode : List UInt8 → Option α),
          (∀ n ≤ payloads.length,
            (readings (readMessage decode limit) n pieces).1 = (payloads.take n).map (answer decode) ∧
            (readings (readMessage decode limit) n pieces).2.flatten =
              writtenAll limit (payloads.drop n) ++ last) ∧
          (readings (readMessage decode limit) (payloads.length + 1) pieces).1 =
            payloads.map (answer decode) ++ [stop failure] ∧
          (readings (readMessage decode limit) (payloads.length + 1) pieces).2.flatten = left := by
  obtain ⟨payloads, last, failure, left, hc, hs, hstops⟩ := exists_carries limit stream
  obtain ⟨hstream, hall⟩ := hc.eq_written
  refine ⟨payloads, last, failure, left, hstream, hall, hstops, ?_⟩
  intro pieces hp
  obtain ⟨houtcomes, hleft⟩ := readings_stop hc hs hp
  have hfewer : ∀ n ≤ payloads.length,
      (readings (readPieces limit) n pieces).1 = (payloads.take n).map (fun payload => .ok (some payload)) ∧
      (readings (readPieces limit) n pieces).2.flatten = writtenAll limit (payloads.drop n) ++ last := by
    intro n hn
    have htake := (hc.take n).readings_eq hp
    rwa [List.length_take, Nat.min_eq_left hn] at htake
  refine ⟨hfewer, houtcomes, hleft, readAll_eq hc hs hp, ?_⟩
  intro α decode
  simp only [readings_readMessage]
  refine ⟨?_, ?_, hleft⟩
  · intro n hn
    obtain ⟨hfirst, hrest⟩ := hfewer n hn
    rw [hfirst, map_decoded]
    exact ⟨rfl, hrest⟩
  · have hlast : decoded decode (stop failure) = stop failure := by cases failure <;> rfl
    rw [houtcomes, List.map_append, map_decoded, List.map_singleton, hlast]

/-- Behind one frame a length above the limit, whose payload stays unread. -/
theorem stream_readings_oversized :
    ∃ last failure left, [0, 0, 0, 1, 7, 0, 0, 0, 9, 5] = writtenAll 2 [[7]] ++ last ∧ Stops 2 last failure left ∧
      failure = some (.tooLarge 9 2) ∧ left = [5] := by
  obtain ⟨payloads, last, failure, left, hstream, -, hstops, h⟩ := stream_readings 2 [0, 0, 0, 1, 7, 0, 0, 0, 9, 5]
  obtain ⟨-, -, -, ⟨hpayloads, hfailure, hleft⟩, -⟩ := h [[0, 0, 0], [1, 7, 0], [0, 0, 9, 5]] rfl
  obtain rfl : [[7]] = payloads := hpayloads
  exact ⟨last, failure, left, hstream, hstops, hfailure.symm, hleft.symm⟩

end Frame

/-! ## Both ends of a connection -/

/-- A connection takes a message off its octets, wherever these are cut. -/
theorem Connection.take_eq_readMessage (limit : Nat) (c : Connection) {pieces : Frame.Pieces}
    (hp : pieces.flatten = c.incoming) :
    c.take limit =
      match Frame.readMessage Request.decode? limit pieces with
      | ⟨.ok (some request), rest⟩ =>
        { c with incoming := rest.flatten, phase := .serving request (.arrived request) }
      | ⟨_, rest⟩ => { c with incoming := rest.flatten, phase := .closed } := by
  obtain ⟨houtcome, hrest⟩ := Frame.readPieces_eq_read limit pieces
  rw [hp] at houtcome hrest
  unfold take Frame.readMessage
  rw [houtcome]
  rcases hr : Frame.read limit c.incoming with ⟨outcome, rest⟩
  rw [hr] at hrest
  cases outcome with
  | error e => simp [Frame.decoded, hrest]
  | ok payload =>
    cases payload with
    | none => simp [Frame.decoded, hrest]
    | some payload => cases hd : Request.decode? payload <;> simp [Frame.decoded, hd, hrest]

/-- So does a client whose octets settle the next frame. -/
theorem Client.receive_eq_readMessage (c : Client) (r : Request)
    (hs : c.link = .ended ∨ Frame.settled limit c.incoming = true) {pieces : Frame.Pieces}
    (hp : pieces.flatten = c.incoming) :
    c.receive r =
      (match (Frame.readMessage Response.decode? limit pieces).outcome with
        | .ok (some response) => .ok response
        | .ok none => .error .noResponse
        | .error e => .error (.notReceived (some e)),
        { c with incoming := (Frame.readMessage Response.decode? limit pieces).rest.flatten }) := by
  obtain ⟨houtcome, hrest⟩ := Frame.readPieces_eq_read limit pieces
  rw [hp] at houtcome hrest
  have hup : ¬ (c.link = .up && ! Frame.settled limit c.incoming) = true := by
    obtain hs | hs := hs <;> simp [hs]
  have hreset : ¬ (c.link = .reset && ! Frame.settled limit c.incoming) = true := by
    obtain hs | hs := hs <;> simp [hs]
  unfold receive read Frame.readMessage
  rw [if_neg hup, if_neg hreset, houtcome]
  dsimp only
  rw [hrest]
  rcases Frame.read limit c.incoming with ⟨outcome, rest⟩
  cases outcome with
  | error e => simp [Frame.decoded]
  | ok payload =>
    cases payload with
    | none => simp [Frame.decoded]
    | some payload => cases hd : Response.decode? payload <;> simp [Frame.decoded, hd]

end DeviceAgent
