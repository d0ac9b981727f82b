import Bearer.Exchange
import Bearer.Text.Case

/-!
# Content codings

A server may send a body coded, as its headers say. The HTTP client undoes the codings that it knows, the last one
first, and delivers what comes out of each chunk. What it knows depends on the packages that are installed.
-/

namespace Bearer

/-- Undoes a coding chunk by chunk. A chunk that is not coded so is refused for a reason. -/
structure Decoder where
  State : Type
  start : State
  decode : State → List UInt8 → Except String (List UInt8 × State)
  flush : State → Except String (List UInt8)

namespace Decoder

def identity : Decoder where
  State := Unit
  start := ()
  decode _ bytes := .ok (bytes, ())
  flush _ := .ok []

/-- One decoder behind another. -/
def andThen (d e : Decoder) : Decoder where
  State := d.State × e.State
  start := (d.start, e.start)
  decode := fun (s, t) bytes => do
    let (bytes, s) ← d.decode s bytes
    let (bytes, t) ← e.decode t bytes
    return (bytes, (s, t))
  flush := fun (s, t) => do
    let (bytes, t) ← e.decode t (← d.flush s)
    return bytes ++ (← e.flush t)

/-- What comes out of chunks, of which empty ones are passed over, and the state behind them or what is wrong with the
next one. -/
def decodeAll (d : Decoder) (s : d.State) : List (List UInt8) → List (List UInt8) × Except String d.State
  | [] => ([], .ok s)
  | chunk :: chunks =>
    if chunk.isEmpty then d.decodeAll s chunks
    else match d.decode s chunk with
      | .error e => ([], .error e)
      | .ok (bytes, s) =>
        let (rest, last) := d.decodeAll s chunks
        (bytes :: rest, last)

end Decoder

/-- The codings that can be undone, by their names in lower case. -/
abbrev Codings := String → Option Decoder

/-- A coding that is not known is left as it is. -/
def Codings.decoder (known : Codings) (names : List String) : Decoder :=
  match names.filterMap known with
  | [] => .identity
  | [d] => d
  | ds => ds.reverse.foldl .andThen .identity

namespace Answer

/-- The codings of the body, in the order in which they were applied. -/
def codings (a : Answer) : List String :=
  match a.header? "content-encoding" with
  | none => []
  | some names => (Text.pieces (· == ',') names.toList).map fun name =>
    Text.lower (Text.strip (String.ofList name))

def breakingOff (a : Answer) (f : Failure) : Answer := { a with breakAfter := some (a.chunks.length, f) }

/-- An answer as it is delivered through a decoder. A chunk that cannot be decoded breaks it off. -/
def deliver (d : Decoder) (a : Answer) : Answer :=
  let (chunks, last) := d.decodeAll d.start a.delivered
  let undecodable (e : String) : Answer :=
    { a with chunks }.breakingOff (.raised (.foreign "DecodingError") e)
  match last with
  | .error e => undecodable e
  | .ok s => match a.breakAfter with
    | some (_, f) => { a with chunks }.breakingOff f
    | none => match d.flush s with
      | .error e => undecodable e
      | .ok bytes => { a with chunks := chunks ++ [bytes] }

def uncoded (known : Codings) (a : Answer) : Answer := a.deliver (known.decoder a.codings)

end Answer

end Bearer
