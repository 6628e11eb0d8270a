import CrossBench.Digest.Chained
import CrossBench.Digest.Octad
import CrossBench.Text.Layout
import CrossBench.Text.Radix
import CrossBench.Tool.Moment

/-!
# Digests of files

The programs that reckon the digests of files, and that compare files with digests which have been
written down.
-/

namespace CrossBench.Tool.Digests

open Shell Shell.Act CrossBench.Digest

/-- A way to reckon a digest. -/
inductive Method where
  | turned
  | plain
  | cyclic
  /-- A digest with its name and the number of its bytes. -/
  | bytes (name : String) (size : Nat) (digest : ByteArray → ByteArray)
  /-- A digest of a length that can be chosen. -/
  | sized (name : String) (most : Nat) (digest : Nat → ByteArray → ByteArray)

/-- The methods by their names. -/
def methods : List (String × Method) :=
  [("bsd", .turned), ("sysv", .plain), ("crc", .cyclic), ("md5", .bytes "MD5" 16 md5),
    ("sha1", .bytes "SHA1" 20 sha1), ("sha224", .bytes "SHA224" 28 sha224),
    ("sha256", .bytes "SHA256" 32 sha256), ("sha384", .bytes "SHA384" 48 sha384),
    ("sha512", .bytes "SHA512" 64 sha512), ("blake2b", .sized "BLAKE2b" 64 blake2b)]

/-- The name of a method, and the greatest number of bytes of its digests. -/
def Method.facts : Method → String × Nat
  | .bytes name size _ => (name, size)
  | .sized name most _ => (name, most)
  | _ => ("", 0)

/-- The digest of so many bytes. -/
def Method.digest (m : Method) (size : Nat) (bytes : ByteArray) : ByteArray :=
  match m with
  | .bytes _ _ digest => digest bytes
  | .sized _ _ digest => digest size bytes
  | .turned => Order.mostFirst.bytes 2 (turnedSum bytes)
  | .plain => Order.mostFirst.bytes 2 (plainSum bytes)
  | .cyclic => Order.mostFirst.bytes 4 (cyclicSum bytes)

/-- A name with backslashes for characters that would break a line, and whether there are any. -/
def escapedName (name : String) : String × Bool :=
  let text := String.join (name.toList.map fun c =>
    if c = '\\' then "\\\\" else if c = '\n' then "\\n" else if c = '\r' then "\\r" else String.singleton c)
  (text, text ≠ name)

/-- A name with its backslashes undone. -/
def plainName? : List Char → Option (List Char)
  | [] => some []
  | '\\' :: c :: rest =>
    match c with
    | 'n' => (plainName? rest).map ('\n' :: ·)
    | 'r' => (plainName? rest).map ('\r' :: ·)
    | '\\' => (plainName? rest).map ('\\' :: ·)
    | _ => none
  | ['\\'] => none
  | c :: rest => (plainName? rest).map (c :: ·)

/-- How digests are written. -/
structure Plan where
  method : Method
  size : Nat
  /-- Whether the name of the method is written. -/
  tagged : Bool
  binary : Bool
  zero : Bool
  base64 : Bool
  raw : Bool
  /-- Whether names are left out. -/
  nameless : Bool

/-- The line for a file. -/
def line (p : Plan) (name : String) (bytes : ByteArray) : String :=
  let stop := if p.zero then "\x00" else "\n"
  let number (value blocks width widthToo : Nat) (fill : Char) : String :=
    Cell.right ⟨toString value, width, none⟩ fill ++ " " ++ Cell.right ⟨toString blocks, widthToo, none⟩ ' '
      ++ (if p.nameless then "" else " " ++ name) ++ stop
  match p.method with
  | .turned => number (turnedSum bytes) ((bytes.size + 1023) / 1024) 5 5 '0'
  | .plain => number (plainSum bytes) ((bytes.size + 511) / 512) 1 1 ' '
  | .cyclic => number (cyclicSum bytes) bytes.size 1 1 ' '
  | m =>
    let digest := m.digest p.size bytes
    let text := if p.base64 then String.ofList (Radix.base64.encode digest) else hexadecimal digest
    let (shown, escaped) := if p.zero then (name, false) else escapedName name
    let (title, most) := m.facts
    let title := if p.size ≠ most then title ++ "-" ++ toString (8 * p.size) else title
    (if escaped then "\\" else "")
      ++ (if p.tagged then title ++ " (" ++ shown ++ ") = " ++ text
        else text ++ " " ++ (if p.binary then "*" else " ") ++ shown) ++ stop

/-! ## Comparing -/

/-- How digests are compared with files. -/
structure Checking where
  quiet : Bool
  status : Bool
  strict : Bool
  warn : Bool
  skipMissing : Bool

/-- A digest that has been written down. -/
structure Entry where
  method : Method
  digest : String
  file : String

/-- Whether a text is a digest of so many bytes. -/
def isDigest (size : Nat) (text : List Char) : Bool :=
  text.length = 2 * size && text.all fun c => c.isDigit || ('a' ≤ c.toLower && c.toLower ≤ 'f')

/-- The entry of a line with the name of a method in front. -/
def taggedEntry? (methods : List Method) (escaped : Bool) (cs : List Char) : Option Entry :=
  methods.findSome? fun m =>
    let (name, most) := m.facts
    if name = "" || !(String.ofList cs).startsWith name then none
    else
      let rest := cs.drop name.length
      let (size, rest) :=
        match m, rest with
        | .sized .., '-' :: rest =>
          let ds := rest.takeWhile Char.isDigit
          (ds.foldl (fun n (c : Char) => n * 10 + (c.toNat - 48)) 0 / 8, rest.drop ds.length)
        | _, rest => (most, rest)
      let rest := if rest.head? = some ' ' then rest.drop 1 else rest
      match rest with
      | '(' :: rest =>
        let back := rest.reverse
        let digest := (back.takeWhile fun c => c != ' ' && c != '\t').reverse
        let front := (back.drop digest.length).dropWhile fun c => c == ' ' || c == '\t'
        match front with
        | '=' :: front =>
          match front.dropWhile fun c => c == ' ' || c == '\t' with
          | ')' :: name =>
            let name := name.reverse
            let name := if escaped then plainName? name else some name
            if isDigest size digest && size ≤ most then
              name.map fun name => ⟨m, String.ofList digest, String.ofList name⟩
            else none
          | _ => none
        | _ => none
      | _ => none

/-- The entry of a line. `reversed` says whether only one blank stands between digests and names, if that
is known. -/
def entry? (methods : List Method) (reversed : Option Bool) (line : List Char) :
    Option Entry × Option Bool :=
  let cs := line.dropWhile fun c => c == ' ' || c == '\t'
  let (cs, escaped) := if cs.head? = some '\\' then (cs.drop 1, true) else (cs, false)
  match taggedEntry? methods escaped cs with
  | some e => (some e, reversed)
  | none =>
    match methods with
    | [m] =>
      let digest := cs.takeWhile fun c => c != ' ' && c != '\t'
      let most := m.facts.2
      let fits :=
        match m with
        | .sized .. => digest.length % 2 = 0 && 2 ≤ digest.length && digest.length ≤ 2 * most
            && isDigest (digest.length / 2) digest
        | _ => isDigest most digest
      let rest := (cs.drop digest.length).drop 1
      if !fits || rest = [] || cs.length = digest.length then (none, reversed)
      else
        let single := rest.length = 1 || !(rest.head? = some ' ' || rest.head? = some '*')
        let name (cs : List Char) : Option Entry :=
          (if escaped then plainName? cs else some cs).map fun n => ⟨m, String.ofList digest, String.ofList n⟩
        if single then
          if reversed = some false then (none, reversed) else (name rest, some true)
        else if reversed = some true then (name rest, reversed)
        else (name (rest.drop 1), some false)
    | _ => (none, reversed)

/-- What has been found in a list of digests. -/
structure Tally where
  lines : Nat := 0
  reversed : Option Bool := none
  formatted : Bool := false
  malformed : Nat := 0
  unread : Nat := 0
  mismatched : Nat := 0
  matched : Bool := false

/-- Compares a file with an entry. -/
def checkEntry (c : Checking) (e : Entry) (t : Tally) : Act Tally := do
  let (shown, escaped) := escapedName e.file
  let shown := (if escaped then "\\" else "") ++ shown
  let t := { t with formatted := true }
  match ← contents e.file with
  | .error why =>
    if c.skipMissing && why = .notFound then return t
    say (unreadable e.file why)
    unless c.status do out (shown ++ ": FAILED open or read\n")
    return { t with unread := t.unread + 1 }
  | .ok bytes =>
    if hexadecimal (e.method.digest (e.digest.length / 2) bytes) = e.digest.map Char.toLower then
      unless c.status || c.quiet do out (shown ++ ": OK\n")
      return { t with matched := true }
    else
      unless c.status do out (shown ++ ": FAILED\n")
      return { t with mismatched := t.mismatched + 1 }

/-- Compares files with the digests that a file lists; whether they are all right. -/
def check (methods : List Method) (kind : String) (c : Checking) (name : String) : Act Bool := do
  match ← contents name with
  | .error e =>
    say (if e = .isDirectory then named name ++ ": read error" else unreadable name e)
    return false
  | .ok bytes =>
    let title := if name = "-" then "standard input" else name
    let t ← (linesBy '\n' (charsOf bytes)).foldlM (fun (t : Tally) line => do
      let t := { t with lines := t.lines + 1 }
      let line := if line.getLast? = some '\r' then line.dropLast else line
      if line = [] || line.head? = some '#' then return t
      match entry? methods t.reversed line with
      | (some e, reversed) =>
        if name = "-" && e.file = "-" then return { t with malformed := t.malformed + 1 }
        checkEntry c e { t with reversed }
      | (none, _) =>
        if c.warn then
          say (named title ++ ": " ++ toString t.lines ++ ": improperly formatted " ++ kind ++ " checksum line")
        return { t with malformed := t.malformed + 1 }) {}
    if !t.formatted then
      say (named title ++ ": no properly formatted checksum lines found")
      return false
    let count (n : Nat) (one many : String) : Act Unit := do
      if n ≠ 0 then say ("WARNING: " ++ toString n ++ " " ++ (if n = 1 then one else many))
    unless c.status do
      count t.malformed "line is improperly formatted" "lines are improperly formatted"
      count t.unread "listed file could not be read" "listed files could not be read"
      count t.mismatched "computed checksum did NOT match" "computed checksums did NOT match"
      if c.skipMissing && !t.matched then say (named title ++ ": no file was verified")
    return (!c.skipMissing || t.matched) && t.mismatched = 0 && t.unread = 0 && (!c.strict || t.malformed = 0)

/-! ## Programs -/

/-- Refuses what has a meaning only when digests are compared, or none then. -/
def restrict (g : Given) (checking : Bool) : Act Unit := do
  if checking then
    if g.has "z" then misuse 1 "the --zero option is not supported when verifying checksums"
    if g.has "tag" then misuse 1 "the --tag option is meaningless when verifying checksums"
    if g.hasAny "bt" then
      misuse 1 "the --binary and --text options are meaningless when verifying checksums"
  else
    ["ignore-missing", "status", "warn", "quiet", "strict"].forM fun name => do
      if g.has (if name = "warn" then "w" else name) then
        misuse 1 ("the --" ++ name ++ " option is meaningful only when verifying checksums")

/-- The number of bytes that an option says a digest should have. -/
def sizeOf (g : Given) (most : Nat) (title : String) : Act Nat := do
  match g.value? "l" with
  | none => return most
  | some text =>
    let wrong {α : Type} (why : String) : Act α := do
      say ("invalid length: " ++ cited text)
      stop 1 why
    match decimal? text with
    | none => stop 1 ("invalid length: " ++ cited text)
    | some n =>
      if 8 * most < n then
        wrong ("maximum digest length for " ++ cited title ++ " is " ++ toString (8 * most) ++ " bits")
      else if n % 8 ≠ 0 then wrong "length is not a multiple of 8"
      else return if n = 0 then most else n / 8

/-- Writes the digests of files. -/
def listing (p : Plan) (files : List String) : Act Nat :=
  forAll (orInput files) fun name => do
    match ← contents name with
    | .error e =>
      say (unreadable name e)
      return false
    | .ok bytes =>
      if p.raw then outBytes (p.method.digest p.size bytes)
      else out (line { p with nameless := p.nameless || files.isEmpty && p.method.facts.1 = "" } name bytes)
      return true

/-- The words of the options of all programs. -/
def commonWords : List (String × String) :=
  [("check", "c"), ("ignore-missing", "ignore-missing"), ("quiet", "quiet"), ("status", "status"),
    ("strict", "strict"), ("tag", "tag"), ("warn", "w"), ("zero", "z")]

/-- How lists of digests are compared. -/
def checkingOf (g : Given) : Checking :=
  ⟨g.has "quiet", g.has "status", g.has "strict", g.has "w", g.has "ignore-missing"⟩

/-- The program for one digest. -/
def digest (m : Method) : Act Nat := do
  let (kind, most) := m.facts
  let sized := m matches .sized ..
  let g ← given
    { letters := "bctwz", valued := if sized then "l" else ""
      words := ("binary", "b") :: ("text", "t") :: commonWords
      valuedWords := if sized then [("length", "l")] else [] }
  let size ← sizeOf g most kind
  restrict g (g.has "c")
  if g.has "c" then forAll (orInput g.operands) (check [m] kind (checkingOf g))
  else
    if g.has "tag" && g.last? "bt" = some 't' then misuse 1 "--tag does not support --text mode"
    listing ⟨m, size, g.has "tag", g.last? "bt" = some 'b', g.has "z", false, false, false⟩ g.operands

/-- The program for digests of any kind. -/
def cksum : Act Nat := do
  let g ← given
    { letters := "cwz", valued := "al"
      words := [("base64", "base64"), ("debug", "debug"), ("raw", "raw"), ("untagged", "untagged")] ++ commonWords
      valuedWords := [("algorithm", "a"), ("length", "l")] }
  let method ←
    match g.value? "a" with
    | none => pure Method.cyclic
    | some text =>
      let names := methods.map (·.1)
      match (wordAmong names text).bind fun n => (methods.find? fun m => m.1 = n).map (·.2) with
      | some m => pure m
      | none => misuseOf "--algorithm" text (names ++ ["sm3"])
  let (kind, most) := method.facts
  if g.has "l" && !(method matches .sized ..) then stop 1 "--length is only supported with --algorithm=blake2b"
  let size ← sizeOf g most kind
  if g.has "c" then
    if (g.value? "a").isSome && kind = "" then
      stop 1 "--check is not supported with --algorithm=\x7bbsd,sysv,crc\x7d"
    restrict { g with options := g.options.filter fun o => o.1 ≠ "untagged" } true
    let chosen := if (g.value? "a").isSome then [method] else methods.map (·.2)
    forAll (orInput g.operands) (check chosen kind (checkingOf g))
  else
    restrict g false
    let tagged := ((g.options.reverse.find? fun o => o.1 = "tag" || o.1 = "untagged").map (·.1)) ≠ some "untagged"
    if g.has "raw" && 1 < g.operands.length then
      stop 1 "the --raw option is not supported with multiple files"
    listing ⟨method, size, tagged, false, g.has "z", g.has "base64", g.has "raw", false⟩ g.operands

/-- The program for the oldest checksums. -/
def sum : Act Nat := do
  let g ← given { letters := "rs", words := [("sysv", "s")] }
  let method : Method := if g.last? "rs" = some 's' then .plain else .turned
  listing ⟨method, 0, false, false, false, false, false, false⟩ g.operands

/-- The programs by their names. -/
def programs : List (String × Act Nat) :=
  [("sum", sum), ("cksum", cksum), ("md5sum", digest (.bytes "MD5" 16 md5)),
    ("sha1sum", digest (.bytes "SHA1" 20 sha1)), ("sha224sum", digest (.bytes "SHA224" 28 sha224)),
    ("sha256sum", digest (.bytes "SHA256" 32 sha256)), ("sha384sum", digest (.bytes "SHA384" 48 sha384)),
    ("sha512sum", digest (.bytes "SHA512" 64 sha512)), ("b2sum", digest (.sized "BLAKE2b" 64 blake2b))]

end CrossBench.Tool.Digests
