import BulkProvision.Text.Percent
import BulkProvision.Text.Split
import BulkProvision.Width

/-!
# Options of an address

What may follow the question mark of an address: the names of the options, in any letter case, and
how the value of each is written.  `options?` reads a whole query and refuses what is not known.
-/

namespace BulkProvision

namespace Remote

open Text

/-- How the value of an option is written. -/
inductive OptionKind where
  | text
  /-- A text that is not empty. -/
  | someText
  | flag
  | natural (bits minimum : Nat)
  /-- One of some words, in any letter case. -/
  | word (words : List String)
  /-- How often a read may lag behind: -1, or a number of seconds. -/
  | staleness
  /-- How many servers confirm a write: a number, or any other text. -/
  | acknowledgment
  /-- Pairs `name:value` between commas, or nothing. -/
  | tags
  /-- Pairs `name:value` between commas, without names whose values are no texts. -/
  | properties
  | mechanism

/-- The authentication mechanisms. -/
def mechanisms : List String :=
  ["SCRAM-SHA-1", "SCRAM-SHA-256", "MONGODB-CR", "MONGODB-X509", "MONGODB-OIDC", "PLAIN"]

/-- The shortest delay after which servers are looked at again, in milliseconds. -/
def minimumHeartbeat : Nat := 500

/-- The modes of reading. -/
def readModes : List String :=
  ["primary", "primarypreferred", "secondary", "secondarypreferred", "nearest"]

/-- The options there are, with lower-case names. -/
def knownOptions : List (String × OptionKind) :=
  [("appname", .text), ("authmechanism", .mechanism), ("authmechanismproperties", .properties),
    ("authsource", .someText), ("connecttimeoutms", .natural 64 0), ("directconnection", .flag),
    ("enableoverloadretargeting", .flag), ("heartbeatfrequencyms", .natural 64 minimumHeartbeat),
    ("journal", .flag), ("loadbalanced", .flag), ("localthresholdms", .natural 64 0),
    ("maxadaptiveretries", .natural 32 0), ("maxconnecting", .natural 32 1),
    ("maxidletimems", .natural 64 0), ("maxpoolsize", .natural 32 1),
    ("maxstalenessseconds", .staleness), ("minpoolsize", .natural 32 0),
    ("readconcernlevel", .text), ("readpreference", .word readModes),
    ("readpreferencetags", .tags), ("replicaset", .text), ("retryreads", .flag),
    ("retrywrites", .flag), ("servermonitoringmode", .word ["stream", "poll", "auto"]),
    ("serverselectiontimeoutms", .natural 64 0), ("ssl", .flag), ("tls", .flag),
    ("tlsallowinvalidcertificates", .flag), ("tlscafile", .text),
    ("tlscertificatekeyfile", .text), ("tlsinsecure", .flag),
    ("uuidrepresentation", .word ["csharplegacy", "javalegacy", "pythonlegacy"]),
    ("w", .acknowledgment), ("waitqueuetimeoutms", .natural 64 0), ("wtimeoutms", .natural 64 0)]

/-- A text in small letters.  Beyond ASCII only the Kelvin sign has one of its letters as its small
letter, so that every other character keeps a text from being a known name. -/
def lower (s : String) : String :=
  String.ofList (s.toList.map fun c => if c = '\u212A' then 'k' else c.toLower)

/-- Names of properties that hold no text. -/
def isNonTextProperty (name : String) : Bool := name = "ALLOWED_HOSTS" || name = "OIDC_CALLBACK"

/-- A pair `name:value`. -/
def property? (s : List Char) : Option (String × String) := do
  let (name, value) ← splitAt? [':'] s
  if isNonTextProperty (String.ofList name) then failure
  pure (String.ofList name, String.ofList value)

/-- Pairs `name:value` between commas. -/
def properties? (value : String) : Option (List (String × String)) :=
  (splitOn ',' value.toList).mapM property?

/-- Whether a text is a value of the kind. -/
def OptionKind.accepts (kind : OptionKind) (value : String) : Bool :=
  let s := value.toList
  match kind with
  | .text => true
  | .someText => value ≠ ""
  | .flag => value = "true" || value = "false"
  | .natural bits minimum => (Width.natural? bits s).any (minimum ≤ ·)
  | .word words => words.contains (lower value)
  | .staleness => (Width.integer? 64 s).any (-1 ≤ ·)
  | .acknowledgment => (Width.integer? 32 s).all (0 ≤ ·)
  | .tags => s.isEmpty || (splitOn ',' s).all (·.contains ':')
  | .properties => (properties? value).isSome
  | .mechanism => mechanisms.contains value

/-- An option: its name in small letters and its value. -/
def option? (s : List Char) : Option (String × String) := do
  let (name, value) ← splitAt? ['='] s
  let name := lower (String.ofList name)
  let value := percentDecodeLossy value
  let kind ← (knownOptions.find? (·.1 = name)).map (·.2)
  if kind.accepts value then pure (name, value) else failure

/-- The option that may be given more than once. -/
def isRepeatable (name : String) : Bool := name = "readpreferencetags"

/-- Whether no other option is given twice. -/
def areDistinct : List (String × String) → Bool
  | [] => true
  | (name, _) :: rest =>
    (isRepeatable name || !(rest.map (·.1)).contains name) && areDistinct rest

/-- The options of a query. -/
def options? (s : List Char) : Option (List (String × String)) :=
  if s.isEmpty then some []
  else ((splitOn '&' s).mapM option?).filter areDistinct

end Remote

end BulkProvision
