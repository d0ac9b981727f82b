import Bearer.Url.Join

/-!
# Where redirects lead

An HTTP client works out where a redirect leads even if it does not go there. The place that is named need not be
absolute: what it lacks comes from the URL that was asked.
-/

namespace Bearer.Redirect

inductive Error where
  /-- The place is no URL. -/
  | unread (error : Url.Error)
  /-- The place is a URL, but does not go together with the one that was asked. -/
  | unjoined (error : Url.Error)
  | unreadableHost (error : DomainName.Error)
  deriving DecidableEq, Repr

def readHost (u : Url) : Except Error (List Char) := u.readableHost.mapError .unreadableHost

/-- A place with a scheme and without a host is on the server that was asked. -/
def addHost (asked place : Url) : Except Error Url := do
  if place.scheme.isEmpty then return place
  else if (← readHost place).isEmpty then (place.withHost (← readHost asked)).mapError .unjoined
  else return place

/-- A place that is not absolute is relative to the URL that was asked. -/
def resolve (asked place : Url) : Except Error Url :=
  if place.isAbsolute then .ok place
  else (Url.read (Url.join asked.chars place.chars)).mapError .unjoined

/-- The fragment of the URL that was asked goes on, unless the place has its own. -/
def addFragment (asked place : Url) : Except Error Url :=
  if asked.readableFragment.isEmpty || !place.readableFragment.isEmpty then .ok place
  else (place.withFragment asked.readableFragment).mapError .unjoined

def target (asked : Url) (place : List Char) : Except Error Url := do
  let url ← (Url.read place).mapError .unread
  let url ← addHost asked url
  let url ← resolve asked url
  let url ← addFragment asked url
  let _ ← readHost url
  return url

/-- Why a redirect from a URL leads nowhere, if it does. -/
def refusal? (asked : Url) (place : List Char) : Option Error :=
  match target asked place with
  | .error e => some e
  | .ok _ => none

end Bearer.Redirect
