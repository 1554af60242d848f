import Teller.Url.Basic

/-!
# Reading URLs

URLs as browsers read them: much is forgiven that a strict reader would refuse.

* `Parts.of`: the text in front of query and fragment, and these two.
* `Url.ofText`: the URL of a text.
* `Url.resolve`: the URL of a text that stands in another URL's place.
-/

namespace Teller.Url

/-- A text of characters that URLs can have: no control characters and spaces around it, no tabs and
line ends in it. -/
def cleaned (cs : List Char) : List Char :=
  let outside (c : Char) : Bool := c.toNat ≤ 0x20
  (((cs.dropWhile outside).reverse.dropWhile outside).reverse).filter (!isSkipped ·)

/-- The text in front of a mark, and the one behind it if it is there. -/
def splitMark (mark : Char) : List Char → List Char × Option (List Char)
  | [] => ([], none)
  | c :: cs =>
    if c = mark then ([], some cs)
    else ((splitMark mark cs).1.cons c, (splitMark mark cs).2)

/-- The text of a URL's front with its query and fragment. -/
structure Parts where
  front : List Char
  query : Option (List Char)
  fragment : Option (List Char)

/-- The parts of a text. -/
def Parts.of (cs : List Char) : Parts :=
  let (rest, fragment) := splitMark '#' cs
  let (front, query) := splitMark '?' rest
  ⟨front, query, fragment⟩

/-- Something stands behind the front. -/
def Parts.goesOn (p : Parts) : Bool := p.query.isSome || p.fragment.isSome

/-- The query as it is written. -/
def Parts.queryOf (p : Parts) (m : Manner) : Option (List Char) :=
  p.query.map (escapeWith (.query m.special))

/-- The fragment as it is written. -/
def Parts.fragmentOf (p : Parts) : Option (List Char) := p.fragment.map (escapeWith .fragment)

/-- A character of a scheme behind its first letter. -/
def isSchemeChar (c : Char) : Bool := c.isAlphanum || c == '+' || c == '-' || c == '.'

/-- The scheme at the start of a text, in lower case, and the text behind its colon. -/
def splitScheme? : List Char → Option (String × List Char)
  | [] => none
  | c :: cs =>
    if c.isAlpha then
      match cs.dropWhile isSchemeChar with
      | ':' :: rest =>
        some (String.ofList ((c :: cs.takeWhile isSchemeChar).map Char.toLower), rest)
      | _ => none
    else none

/-- The text in front of the first slash, and the text from there on. -/
def splitSlash (m : Manner) (cs : List Char) : List Char × List Char :=
  (cs.takeWhile (!m.isSlash ·), cs.dropWhile (!m.isSlash ·))

/-- The user in front of the last at sign before the first slash, and the text behind it. -/
def splitUser (m : Manner) (cs : List Char) : Option (List Char) × List Char :=
  let (area, rest) := splitSlash m cs
  let behind := (area.reverse.takeWhile (· ≠ '@')).reverse
  if behind.length < area.length then
    (some (area.take (area.length - behind.length - 1)), behind ++ rest)
  else (none, cs)

/-- The name and the password of a user. An empty password is none. -/
def readUser (user : List Char) : List Char × Option (List Char) :=
  let (name, password) := splitMark ':' user
  (escapeWith .userinfo name,
    match password with
    | some [] => none
    | some p => some (escapeWith .userinfo p)
    | none => none)

/-- The text of a host, up to a colon outside brackets or a slash, and the text behind it. -/
def splitHost (m : Manner) (bracket : Bool) : List Char → List Char × List Char
  | [] => ([], [])
  | c :: cs =>
    if m.isSlash c ∨ (c = ':' ∧ ¬ bracket) then ([], c :: cs)
    else
      let (host, rest) := splitHost m (c == '[' || (bracket && c != ']')) cs
      (c :: host, rest)

/-- The number of a port, and the text behind it. -/
def readPort (acc : Option Nat) : List Char → Except UrlError (Option Nat × List Char)
  | [] => .ok (acc, [])
  | c :: cs =>
    if c.isDigit then
      let n := acc.getD 0 * 10 + (c.toNat - '0'.toNat)
      if 65535 < n then .error .port else readPort (some n) cs
    else if c = '/' ∨ c = '\\' then .ok (acc, c :: cs)
    else .error .port

/-- The port of a scheme, unless it is the one that the scheme stands for anyway. -/
def splitPort (scheme : String) : List Char → Except UrlError (Option Nat × List Char)
  | ':' :: cs => do
    let (port, rest) ← readPort none cs
    return (if port = defaultPort? scheme then none else port, rest)
  | cs => .ok (none, cs)

/-- The host of a text; an empty one is none, and on the web there is always one. -/
def readHost (m : Manner) (cs rest : List Char) : Except UrlError (Option Host) :=
  if cs.isEmpty then
    if m.special ∨ rest.head? = some ':' then .error .emptyHost else .ok none
  else (Host.ofText m.special cs).map some

/-- The authority behind two slashes, and the text of the path. A user needs a host. -/
def readAuthority (scheme : String) (goesOn : Bool) (cs : List Char) :
    Except UrlError (Authority × List Char) := do
  let m := mannerOf scheme
  let (user, rest) := splitUser m cs
  if user = some [] ∧ (if rest.isEmpty then goesOn else rest.head?.any m.isSlash) then
    throw .emptyHost
  let (username, password) := readUser (user.getD [])
  let (hostText, rest) := splitHost m false rest
  let host ← readHost m hostText rest
  let (port, rest) ← splitPort scheme rest
  if host.isNone ∧ (¬ username.isEmpty ∨ password.isSome) then throw .emptyHost
  return (⟨username, password, host, port⟩, rest)

/-- A URL with the authority and the path that a text gives. -/
def readWithAuthority (scheme : String) (p : Parts) (cs : List Char) : Except UrlError Url := do
  let m := mannerOf scheme
  let (authority, rest) ← readAuthority scheme p.goesOn cs
  return ⟨scheme, some authority, .read m rest, p.queryOf m, p.fragmentOf⟩

/-- The URL of a file with the given host. A drive at the start of the path needs no host. -/
def fileUrl (p : Parts) (host : Option Host) (path : List Char) : Url :=
  let segments := readSegments .file path
  let host := if segments.head?.any isDrive then none else host
  ⟨"file", some ⟨[], none, host, none⟩, .rooted (trimRoot segments), p.queryOf .file,
    p.fragmentOf⟩

/-- The host of a file. This machine is no host. -/
def readFileHost (cs : List Char) : Except UrlError (Option Host) := do
  if cs.isEmpty then return none
  let host ← Host.ofText true cs
  return if host = .name "localhost".toList then none else some host

/-- The URL of a file, from the text behind its scheme. -/
def readFile (p : Parts) (cs : List Char) : Except UrlError Url :=
  match cs with
  | a :: b :: rest =>
    if Manner.file.isSlash a ∧ Manner.file.isSlash b then
      let (hostText, path) := splitSlash .file rest
      if isDrive hostText then .ok (fileUrl p none rest)
      else (readFileHost hostText).map fun host => fileUrl p host path
    else .ok (fileUrl p none cs)
  | _ => .ok (fileUrl p none cs)

/-- The URL of a scheme outside the web, from the text behind it. -/
def readPlain (scheme : String) (p : Parts) : List Char → Except UrlError Url
  | '/' :: '/' :: cs => readWithAuthority scheme p cs
  | '/' :: cs =>
    .ok ⟨scheme, none, .rooted (readFrom .plain [] cs), p.queryOf .plain, p.fragmentOf⟩
  | cs => .ok ⟨scheme, none, .flat (escapeWith .controls cs), p.queryOf .plain, p.fragmentOf⟩

/-- The URL of a scheme, from the text behind it. -/
def readBehind (scheme : String) (p : Parts) (cs : List Char) : Except UrlError Url :=
  match mannerOf scheme with
  | .web => readWithAuthority scheme p (cs.dropWhile Manner.web.isSlash)
  | .file => readFile p cs
  | .plain => readPlain scheme p cs

/-- The URL of a text. -/
def ofText (s : String) : Except UrlError Url :=
  match splitScheme? (cleaned s.toList) with
  | some (scheme, rest) => readBehind scheme (.of rest) (Parts.of rest).front
  | none => .error .relative

/-- The URL of a reference without scheme, in the place of another URL. -/
def resolveFront (base : Url) (p : Parts) : Except UrlError Url :=
  let m := base.manner
  match p.front with
  | [] =>
    .ok { base with query := if p.query.isSome then p.queryOf m else base.query,
                    fragment := p.fragmentOf }
  | c :: cs =>
    if m.isSlash c then
      match cs with
      | d :: rest =>
        if m.isSlash d then
          readWithAuthority base.scheme p
            (if c = '/' ∧ d = '/' then rest else rest.dropWhile m.isSlash)
        else .ok { base with path := .rooted (readFrom m [] cs), query := p.queryOf m,
                             fragment := p.fragmentOf }
      | [] => .ok { base with path := .rooted [[]], query := p.queryOf m,
                              fragment := p.fragmentOf }
    else
      match base.path with
      | .flat _ => .error .relativeToOpaque
      | .rooted segments =>
        .ok { base with path := .rooted (readFrom m segments.dropLast (c :: cs)),
                        query := p.queryOf m, fragment := p.fragmentOf }

/-- The URL of a text that stands in the place of a URL of the web. A scheme of its own makes it a
whole URL, unless it is the same and no two slashes follow. -/
def resolve (base : Url) (s : String) : Except UrlError Url :=
  let cs := cleaned s.toList
  match splitScheme? cs with
  | some (scheme, rest) =>
    let p := Parts.of rest
    if scheme = base.scheme ∧ base.manner = .web ∧
        (p.front.takeWhile Manner.web.isSlash).length < 2 then
      resolveFront base p
    else readBehind scheme p p.front
  | none => resolveFront base (.of cs)

end Teller.Url
