import DeviceAgent.Frame.Basic

/-!
# Frames that arrive in pieces

A connection hands out its octets in pieces of any size. The header and the payload are each filled up from
as many pieces as they need, and no octet behind them is taken.
-/

namespace DeviceAgent

namespace Frame

abbrev Pieces := List (List UInt8)

/-- Takes a number of octets, or all there are, and leaves the rest of the last piece that was touched. -/
def fill : (n : Nat) → Pieces → List UInt8 × Pieces
  | _, [] => ([], [])
  | n, p :: ps =>
    if n = 0 then ([], p :: ps)
    else if p.length ≤ n then
      let (more, rest) := fill (n - p.length) ps
      (p ++ more, rest)
    else (p.take n, p.drop n :: ps)

/-- What reading off pieces comes to: the outcome, none at a clean end, and the pieces left. -/
structure PieceReading (α : Type) where
  outcome : Except Failure (Option α)
  rest : Pieces

/-- Reads one frame off a stream that ends after these pieces. -/
def readPieces (limit : Nat) (pieces : Pieces) : PieceReading (List UInt8) :=
  let (head, behind) := fill headerLength pieces
  if head.isEmpty then ⟨.ok none, behind⟩
  else if head.length < headerLength then ⟨.error .truncated, behind⟩
  else
    let n := bigEndian head
    if limit < n then ⟨.error (.tooLarge n limit), behind⟩
    else
      let (payload, rest) := fill n behind
      if payload.length < n then ⟨.error .truncated, rest⟩ else ⟨.ok (some payload), rest⟩

/-- The outcome for a payload that has to be decoded. -/
def decoded {α : Type} (decode : List UInt8 → Option α) :
    Except Failure (Option (List UInt8)) → Except Failure (Option α)
  | .ok (some payload) =>
    match decode payload with
    | some message => .ok (some message)
    | none => .error .malformed
  | .ok none => .ok none
  | .error e => .error e

/-- Reads one frame and decodes its payload, which is off the stream also when it does not decode. -/
def readMessage {α : Type} (decode : List UInt8 → Option α) (limit : Nat) (pieces : Pieces) : PieceReading α :=
  ⟨decoded decode (readPieces limit pieces).outcome, (readPieces limit pieces).rest⟩

/-- The frames of a stream up to its end or the first failure. -/
structure Run where
  payloads : List (List UInt8)
  failure : Option Failure
  rest : Pieces

def readMany (limit : Nat) : (fuel : Nat) → Pieces → Run
  | 0, pieces => ⟨[], none, pieces⟩
  | fuel + 1, pieces =>
    match readPieces limit pieces with
    | ⟨.ok (some payload), rest⟩ =>
      let run := readMany limit fuel rest
      { run with payloads := payload :: run.payloads }
    | ⟨.ok none, rest⟩ => ⟨[], none, rest⟩
    | ⟨.error e, rest⟩ => ⟨[], some e, rest⟩

/-- Reads all frames; each takes at least the octets of a header. -/
def readAll (limit : Nat) (pieces : Pieces) : Run :=
  readMany limit (pieces.flatten.length + 1) pieces

end Frame

end DeviceAgent
