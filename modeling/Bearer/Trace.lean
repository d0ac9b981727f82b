import Bearer.Event
import Bearer.GivenToken

/-!
# What a trace shows

The record of an exception that is none of this library comes with a trace: the lines that the exception came
through, each with the values of its variables, cut to a length. Kept of it are the values that hold the
token, a request or an answer, each of them once.
-/

namespace Bearer

namespace Text

def quotedByte (quote : Char) (b : UInt8) : String :=
  if b < 0x80 then quotedChar quote (Char.ofNat b.toNat) else hiddenEscape b.toNat

def quotedBytes (bytes : List UInt8) : String :=
  let quote := if bytes.contains 0x27 && !bytes.contains 0x22 then '"' else '\''
  bytes.foldl (fun out b => out ++ quotedByte quote b) ("b" ++ quote.toString) ++ quote.toString

end Text

/-- A request as a trace shows it, with its token. The credentials are an object that shows nothing. -/
def Request.shown (r : Request) : String :=
  let form := match r.form with
    | none => "None"
    | some pairs =>
      "\x7b" ++ ", ".intercalate (pairs.map fun (k, v) => Text.quoted k ++ ": " ++ Text.quoted v) ++ "\x7d"
  let credentials := if r.credentials.isSome then "<httpx.BasicAuth object>" else "None"
  "IntrospectionRequest(method=" ++ Text.quoted r.method.word ++ ", url=" ++ Text.quoted r.url ++ ", endpoint="
    ++ Text.quoted r.endpoint ++ ", data=" ++ form ++ ", auth=" ++ credentials ++ ")"

def Response.shown (r : Response) : String :=
  "RawResponse(status_code=" ++ toString r.status ++ ", body=" ++ Text.quotedBytes r.body ++ ")"

namespace Trace

def valueLength : Nat := 128

def cut (value : String) : String :=
  if valueLength < value.length then String.ofList (value.toList.take (valueLength - 3)) ++ "..." else value

/-- The executions after which nothing was tried again: the last one of each endpoint that was asked. A wait
stands before an execution that tries again. -/
def lastExecutions (last : Option Execution) : List Event → List Execution
  | [] => last.toList
  | .execution x :: es => last.toList ++ lastExecutions (some x) es
  | .wait _ :: es => lastExecutions none es
  | _ :: es => lastExecutions last es

def shownOf (x : Execution) : List String :=
  cut x.request.shown :: (x.response.map fun response => cut response.shown).toList

/-- A failure at the fallback shows by what its primary endpoint failed, as it came while that was handled. -/
def shownBy (es : List Event) : List String := (lastExecutions none es).flatMap shownOf

end Trace

/-- A given token as a trace shows it. -/
def GivenToken.shown (given : GivenToken) : List String :=
  match given.normalize with
  | .ok t => [Trace.cut t.quoted]
  | .error _ => []

end Bearer
