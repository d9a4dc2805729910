/-!
# Frames

A frame is a payload behind its length in four octets, the highest first. Reading checks the length before it
touches the payload; streams arrive in pieces of any size.
-/

namespace DeviceAgent

namespace Frame

def headerLength : Nat := 4

/-- The largest payload that the agent takes when nothing else is set. -/
def defaultLimit : Nat := 65536

inductive Failure where
  | tooLarge (length limit : Nat)
  | truncated
  | malformed
deriving DecidableEq, Repr

/-- The text of a failure; the details of a malformed payload belong to its reader. -/
def Failure.message : Failure → String
  | .tooLarge length limit =>
    "frame of " ++ toString length ++ " bytes exceeds maximum of " ++ toString limit ++ " bytes"
  | .truncated => "connection closed mid-frame"
  | .malformed => "invalid JSON payload"

/-- A failure that is the fault of the other side, as opposed to a broken connection. -/
def Failure.isViolation : Failure → Bool
  | .tooLarge .. | .malformed => true
  | .truncated => false

def header (n : Nat) : List UInt8 :=
  [(n / 16777216).toUInt8, (n / 65536).toUInt8, (n / 256).toUInt8, n.toUInt8]

/-- The number that octets write, the highest first. -/
def bigEndian (bs : List UInt8) : Nat :=
  bs.foldl (fun n b => n * 256 + b.toNat) 0

/-- The octets of a frame; a payload above the limit has none. -/
def write (limit : Nat) (payload : List UInt8) : Except Failure (List UInt8) :=
  if limit < payload.length then .error (.tooLarge payload.length limit)
  else .ok (header payload.length ++ payload)

/-- What reading one frame off a stream comes to: the outcome, none at a clean end, and the octets left. -/
structure Reading where
  outcome : Except Failure (Option (List UInt8))
  rest : List UInt8

/-- Reads one frame off a stream that ends after its octets. -/
def read (limit : Nat) (stream : List UInt8) : Reading :=
  let head := stream.take headerLength
  let body := stream.drop headerLength
  if stream.isEmpty then ⟨.ok none, []⟩
  else if head.length < headerLength then ⟨.error .truncated, []⟩
  else
    let n := bigEndian head
    if limit < n then ⟨.error (.tooLarge n limit), body⟩
    else if body.length < n then ⟨.error .truncated, []⟩
    else ⟨.ok (some (body.take n)), body.drop n⟩

/-- Whether the octets of a stream that goes on are enough to settle the next reading. -/
def settled (limit : Nat) (stream : List UInt8) : Bool :=
  headerLength ≤ stream.length &&
    let n := bigEndian (stream.take headerLength)
    limit < n || n ≤ (stream.drop headerLength).length

end Frame

end DeviceAgent
