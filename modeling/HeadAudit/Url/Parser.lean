import HeadAudit.Url.Path

namespace HeadAudit.Url

/-- Without blanks and control characters around it, and without tabs and line ends in it. -/
def cleaned (s : String) : List Char :=
  let outer (c : Char) : Bool := c ≤ ' '
  let cs := ((s.toList.dropWhile outer).reverse.dropWhile outer).reverse
  cs.filter fun c => c != '\t' && c != '\n' && c != '\r'

def splitScheme (cs : List Char) : Option (String × List Char) :=
  match cs with
  | [] => none
  | c :: _ =>
    let isSchemeChar (c : Char) : Bool := c.isAlphanum || c == '+' || c == '-' || c == '.'
    match isAsciiLetter c, cs.dropWhile isSchemeChar with
    | true, ':' :: rest => some (Ascii.lower (String.ofList (cs.takeWhile isSchemeChar)), rest)
    | _, _ => none

def isSlash (c : Char) : Bool := c == '/' || c == '\\'

def withTail (url : Url) (rest : List Char) : Url :=
  let escapeQuery := if url.kind.isSpecial then Percent.inSpecialQuery else Percent.inQuery
  let fragment (cs : List Char) := String.ofList (Percent.encode Percent.inFragment cs)
  match rest with
  | '?' :: cs =>
    { url with
      query := some (String.ofList (Percent.encode escapeQuery (cs.takeWhile (· != '#'))))
      fragment := match cs.dropWhile (· != '#') with
        | _ :: cs => some (fragment cs)
        | [] => none }
  | '#' :: cs => { url with query := none, fragment := some (fragment cs) }
  | _ => { url with query := none, fragment := none }

def endsAuthority (kind : Kind) (c : Char) : Bool :=
  c == '/' || c == '?' || c == '#' || (c == '\\' && kind.isSpecial)

def userinfoOf (cs : List Char) : String × Option String :=
  let escape (cs : List Char) := String.ofList (Percent.encode Percent.inUserinfo cs)
  let name := cs.takeWhile (· != ':')
  let password := (cs.dropWhile (· != ':')).drop 1
  (escape name, if password.isEmpty then none else some (escape password))

/-- Split off the user information. An authority of nothing but a leading `@` needs a host. -/
def splitUserinfo (kind : Kind) (cs : List Char) :
    Except UrlFault ((String × Option String) × List Char) :=
  let reach := cs.takeWhile (!endsAuthority kind ·)
  if !reach.contains '@' then .ok (("", none), cs)
  else
    let behind := (reach.reverse.takeWhile (· != '@')).reverse
    let before := reach.take (reach.length - behind.length - 1)
    let rest := cs.drop (before.length + 1)
    if before.isEmpty then
      if rest.head?.any (endsAuthority kind) then .error .emptyHost else .ok (("", none), rest)
    else .ok (userinfoOf before, rest)

def hostLength (kind : Kind) : Bool → List Char → Nat
  | _, [] => 0
  | inside, c :: cs =>
    if (c == ':' && !inside) || endsAuthority kind c then 0
    else
      let inside := if c == '[' then true else if c == ']' then false else inside
      hostLength kind inside cs + 1

/-- A port number of at most 16 bits; an empty one and the usual one of the scheme are none. -/
def splitPort (scheme : String) (cs : List Char) : Except UrlFault (Option Nat × List Char) :=
  let digits := cs.takeWhile Char.isDigit
  let rest := cs.dropWhile Char.isDigit
  let port := Ascii.valueIn 10 digits
  if 65535 < port then .error .port
  else if rest.head?.any (!endsSegment ·) then .error .port
  else if digits.isEmpty || some port == defaultPort? scheme then .ok (none, rest)
  else .ok (some port, rest)

/-- Host and port. The host may be empty only where the scheme is not special and no port
follows. -/
def splitHost (scheme : String) (cs : List Char) :
    Except UrlFault (Option Host × Option Nat × List Char) := do
  let kind := kindOf scheme
  let n := hostLength kind false cs
  let name := cs.take n
  let rest := cs.drop n
  if name.isEmpty then
    if kind.isSpecial || rest.head? == some ':' then throw .emptyHost
    return (none, none, rest)
  let host ← if kind.isSpecial then Host.ofName name else Host.ofOpaque name
  match rest with
  | ':' :: rest =>
    let (port, rest) ← splitPort scheme rest
    return (some host, port, rest)
  | rest => return (some host, none, rest)

def afterSlashes (scheme : String) (cs : List Char) : Except UrlFault Url := do
  let kind := kindOf scheme
  let ((username, password), rest) ← splitUserinfo kind cs
  let (host, port, rest) ← splitHost scheme rest
  if host.isNone && (!username.isEmpty || password.isSome) then throw .emptyHost
  let (b, rest) := parsePathStart kind rest
  return withTail
    { scheme, authority := some { username, password, host, port }, path := b.path } rest

def ofOther (scheme : String) (cs : List Char) : Except UrlFault Url :=
  match cs with
  | '/' :: '/' :: rest => afterSlashes scheme rest
  | '/' :: rest =>
    let (b, rest) := parsePath .other ['/'] rest
    .ok (withTail { scheme, path := b.path } rest)
  | cs =>
    let isTail (c : Char) : Bool := c == '?' || c == '#'
    let path := Percent.encode Percent.control (cs.takeWhile (!isTail ·))
    .ok (withTail { scheme, path } (cs.dropWhile (!isTail ·)))

def withFragment (base : Url) (cs : List Char) : Url :=
  { base with fragment := some (String.ofList (Percent.encode Percent.inFragment (cs.drop 1))) }

def localFile (path : List Char) : Url :=
  { scheme := "file", authority := some {}, path }

def fileHost (cs : List Char) : Except UrlFault (Option Host × List Char) := do
  let name := cs.takeWhile (!endsSegment ·)
  if name.isEmpty || isDriveLetter name then return (none, cs)
  match ← Host.ofName name with
  | .domain "localhost" => return (none, cs.drop name.length)
  | host => return (some host, cs.drop name.length)

def fileAfterSlashes (cs : List Char) : Except UrlFault Url := do
  let (host, rest) ← fileHost cs
  let (b, rest) := if host.isSome then parsePathStart .file rest else parsePath .file ['/'] rest
  return withTail
    { localFile b.path with authority := some { host := if b.driveFirst then none else host } } rest

/-- A file URL behind one slash. It keeps the drive letter or else the host of its base. -/
def fileAfterSlash (base : Option Url) (cs : List Char) : Url :=
  let (host, path) :=
    match base with
    | some base =>
      if startsWithDriveLetter (cs.drop 1) then (none, [])
      else if isNormalDriveLetter (firstSegment base) then (none, '/' :: firstSegment base)
      else (base.host?, [])
    | none => (none, [])
  let (b, rest) := parsePath .file path cs
  withTail { localFile b.path with authority := some { host } } rest

def ofFile (base : Option Url) (cs : List Char) : Except UrlFault Url :=
  match base, cs with
  | _, a :: b :: rest =>
    if isSlash a then
      if isSlash b then fileAfterSlashes rest else .ok (fileAfterSlash base cs)
    else .ok (reference base cs)
  | base, [a] => if isSlash a then .ok (fileAfterSlash base cs) else .ok (reference base cs)
  | base, [] => .ok (reference base cs)
where
  reference (base : Option Url) (cs : List Char) : Url :=
    match base, cs with
    | some base, [] => { base with fragment := none }
    | some base, '?' :: _ => withTail base cs
    | some base, '#' :: _ => withFragment base cs
    | some base, cs =>
      if startsWithDriveLetter cs then
        let (b, rest) := parsePath .file ['/'] cs
        withTail (localFile b.path) rest
      else
        let (b, rest) := parsePath .file (popPath .file base.path) cs
        withTail { base with path := b.path } rest
    | none, cs =>
      let (b, rest) := parsePath .file ['/'] cs
      withTail (localFile b.path) rest

def ofReference (base : Url) (cs : List Char) : Except UrlFault Url :=
  match cs with
  | [] => .ok { base with fragment := none }
  | '?' :: _ => .ok (withTail base cs)
  | '#' :: _ => .ok (withFragment base cs)
  | c :: rest =>
    if isSlash c then
      match cs with
      | '/' :: '/' :: rest => afterSlashes base.scheme rest
      | _ =>
        if rest.head?.any isSlash then afterSlashes base.scheme (cs.dropWhile isSlash)
        else
          let (b, rest) := parsePath base.kind ['/'] rest
          .ok (withTail { base with path := b.path } rest)
    else
      let path := popPath base.kind base.path
      let (b, rest) := parsePath base.kind (if path.isEmpty then ['/'] else path) cs
      .ok (withTail { base with path := b.path } rest)

/-- Read a URL; `base` resolves what has no scheme. -/
def resolve (base : Option Url) (s : String) : Except UrlFault Url :=
  let cs := cleaned s
  match splitScheme cs, base with
  | some (scheme, rest), base =>
    match kindOf scheme with
    | .file => ofFile (base.filter (·.scheme == "file")) rest
    | .other => ofOther scheme rest
    | .special =>
      let slashes := (rest.takeWhile isSlash).length
      match base with
      | some base =>
        if slashes < 2 && base.scheme == scheme then ofReference base rest
        else afterSlashes scheme (rest.drop slashes)
      | none => afterSlashes scheme (rest.drop slashes)
  | none, some base =>
    if cs.head? == some '#' then .ok (withFragment base cs)
    else if base.isOpaque then .error .relativeToOpaque
    else if base.kind == .file then ofFile (some base) cs
    else ofReference base cs
  | none, none => .error .relativeWithoutBase

def parse (s : String) : Except UrlFault Url := resolve none s

def join (base : Url) (reference : String) : Except UrlFault Url := resolve (some base) reference

/-- The origin of a URL. Blob URLs have that of the URL in their path, which is shorter than they
are; URLs of other schemes have none. -/
def originWithin : Nat → Url → Option Origin
  | 0, _ => none
  | fuel + 1, url =>
    if url.scheme == "blob" then
      (parse (String.ofList url.path)).toOption.bind (originWithin fuel)
    else if url.kind == .special then
      match url.authority with
      | some { host := some host, port, .. } =>
        some ⟨url.scheme, host, (port.or (defaultPort? url.scheme)).getD 0⟩
      | _ => none
    else none

def origin? (url : Url) : Option Origin := originWithin (url.path.length + 1) url

end HeadAudit.Url
