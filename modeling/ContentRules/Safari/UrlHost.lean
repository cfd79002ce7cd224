import ContentRules.Text.Pieces

/-!
The host of an absolute URL: what stands between `://` and the path, query or fragment, without user
information and port.
-/

namespace ContentRules.UrlHost

def endsAuthority (c : Char) : Bool := c = '/' || c = '?' || c = '#'

/-- The authority of a URL. -/
def authority? (url : List Char) : Option (List Char) :=
  (Text.cutAt [':', '/', '/'] url).map fun (_, rest) => rest.takeWhile (!endsAuthority ·)

/-- The host of a URL, unless it is empty. -/
def ofUrl? (url : List Char) : Option (List Char) :=
  match authority? url with
  | none => none
  | some authority =>
    let hostPort :=
      match Text.cutLast (· == '@') authority with
      | some (_, after) => after
      | none => authority
    let host := hostPort.takeWhile (· != ':')
    if host.isEmpty then none else some host

end ContentRules.UrlHost
