import Bearer.Url.Reader

/-!
# Changing and joining URLs

The parts of a URL are looked at again when one of them is replaced. A reference is joined to a base as text:
it brings what it names, and takes from the base whatever stands in front of that.
-/

namespace Bearer.Url

/-! ### Replacing a part -/

def withParts (u : Url) : Parts where
  scheme := u.scheme
  authority := u.authority
  path := u.path
  query := u.query
  fragment := u.fragment

def Parts.named (p : Parts) : List (String × List Char) :=
  [("scheme", p.scheme), ("authority", p.authority), ("path", p.path)]
    ++ (p.query.map ("query", ·)).toList ++ (p.fragment.map ("fragment", ·)).toList

/-- As text a part may be longer than what it was read from. -/
def checkPart (name : String) (cs : List Char) : Except Error Unit :=
  if maxLength < cs.length then .error (.partTooLong name)
  else match cs.find? isControl with
    | some c => .error (.unprintableIn name c (cs.takeWhile (!isControl ·)).length)
    | none => .ok ()

def checkParts (parts : List (String × List Char)) : Except Error Unit :=
  parts.forM fun (name, cs) => checkPart name cs

def withHost (u : Url) (host : List Char) : Except Error Url := do
  let host := if host.contains ':' then '[' :: host ++ [']'] else host
  checkParts (u.withParts.named ++ [("host", host)])
  let userinfo := if u.userinfo.isEmpty then [] else u.userinfo ++ ['@']
  let port := led ':' (u.port.map fun n => (toString n).toList)
  ofParts { u.withParts with authority := userinfo ++ host ++ port }

def withFragment (u : Url) (fragment : List Char) : Except Error Url := do
  let parts := { u.withParts with fragment := some fragment }
  checkParts parts.named
  ofParts parts

/-- The fragment as people read it. -/
def readableFragment (u : Url) : List Char := Percent.decodeText (u.fragment.getD [])

/-! ### References -/

/-- Schemes whose URLs a reference can be relative to. -/
def hierarchicalSchemes : List String := [
  "", "ftp", "http", "gopher", "nntp", "imap", "wais", "file", "https", "shttp", "mms", "prospero", "rtsp",
  "rtsps", "rtspu", "sftp", "svn", "svn+ssh", "ws", "wss"]

/-- Schemes among them whose paths end in parameters behind a semicolon. -/
def parameterSchemes : List String := [
  "", "ftp", "prospero", "http", "imap", "https", "shttp", "rtsp", "rtsps", "rtspu", "mms", "sftp"]

/-- A path without the parameters of its last segment, and these. -/
def takeParameters (scheme path : List Char) : List Char × List Char :=
  let last := (path.reverse.takeWhile (· != '/')).reverse
  if parameterSchemes.contains (String.ofList scheme) && last.contains ';' then
    (path.take (path.length - last.length) ++ last.takeWhile (· != ';'), (last.dropWhile (· != ';')).drop 1)
  else (path, [])

/-- A text in front of another one, unless that is empty. -/
def ledUnlessEmpty (c : Char) (cs : List Char) : List Char := if cs.isEmpty then [] else c :: cs

/-- A path behind an authority starts at the root. -/
def joinParts (scheme authority path params query fragment : List Char) : List Char :=
  let path := path ++ ledUnlessEmpty ';' params
  let place :=
    if authority.isEmpty then path
    else
      '/' :: '/' :: authority ++ (if path.isEmpty || path.head? = some '/' then path else '/' :: path)
  (if scheme.isEmpty then [] else scheme ++ [':'])
    ++ place ++ ledUnlessEmpty '?' query ++ ledUnlessEmpty '#' fragment

/-- One segment behind others, nearest first; a double dot takes the nearest away. -/
def climb (done : List (List Char)) (segment : List Char) : List (List Char) :=
  if segment = ['.', '.'] then done.drop 1
  else if segment = ['.'] then done
  else segment :: done

/-- The path that segments lead to. It ends in a slash if the last one is made of dots. -/
def climbAll (segments : List (List Char)) : List Char :=
  let done := segments.foldl climb []
  let dotted := segments.getLast?.any fun s => s = ['.'] || s = ['.', '.']
  let path := Text.join '/' (if dotted then [] :: done else done).reverse
  if path.isEmpty then ['/'] else path

/-- The segments of a relative path behind those of the base but its last one. Empty ones within are passed over. -/
def followSegments (base path : List Char) : List (List Char) :=
  let front := Text.pieces (· == '/') base
  let front := if front.getLast? = some [] then front else front.dropLast
  match front ++ Text.pieces (· == '/') path with
  | [] => []
  | first :: rest => first :: (rest.dropLast.filter (!·.isEmpty) ++ rest.getLast?.toList)

def followPath (base path : List Char) : List Char :=
  climbAll (if path.head? = some '/' then Text.pieces (· == '/') path else followSegments base path)

/-- A reference as it is understood at a base. -/
def join (base reference : List Char) : List Char :=
  if reference.isEmpty then base
  else
    let b := Parts.ofChars base
    let r := Parts.ofChars reference
    let scheme := if r.scheme.isEmpty then b.scheme else r.scheme.map Char.toLower
    if scheme != b.scheme || !hierarchicalSchemes.contains (String.ofList scheme) then reference
    else
      let (path, params) := takeParameters scheme r.path
      let (basePath, baseParams) := takeParameters scheme b.path
      let query := r.query.getD []
      let fragment := r.fragment.getD []
      if !r.authority.isEmpty then joinParts scheme r.authority path params query fragment
      else if path.isEmpty && params.isEmpty then
        joinParts scheme b.authority basePath baseParams (if query.isEmpty then b.query.getD [] else query) fragment
      else joinParts scheme b.authority (followPath basePath path) params query fragment

/-- What a reference brings is kept, and dots climb. -/
example : [".", "?b", "../../x;y", "//h/x", "#f", "mailto:a"].map (fun r =>
    String.ofList (join "https://a.example/i/j/k?q#g".toList r.toList)) =
      ["https://a.example/i/j/", "https://a.example/i/j/k?b", "https://a.example/x;y", "https://h/x",
        "https://a.example/i/j/k?q#f", "mailto:a"] := by decide +kernel

end Bearer.Url
