import Roster.Config.Field
import Roster.Yaml.Scalar

/-!
# Reading the configuration

A configuration file holds one document, a mapping from fields to values. Fields that are missing
keep their usual values and unknown ones say nothing. The parts of the document are read in order, so
of a value that does not fit and a fault of the text behind it the value is reported.
-/

namespace Roster.Config

/-- What a field or the whole file has to be. -/
inductive Kind where
  /-- The configuration. -/
  | config
  /-- A key. -/
  | key
  /-- A text. -/
  | text
  /-- A path. -/
  | path
  /-- A whole number up to 2^64. -/
  | whole
  /-- A truth value. -/
  | truth
  /-- A list. -/
  | list
  deriving DecidableEq, Repr

/-- What has to be there, in words. -/
def Kind.noun : Kind → String
  | config => "struct Config"
  | key => "field identifier"
  | text => "a string"
  | path => "path string"
  | whole => "u64"
  | truth => "a boolean"
  | list => "a sequence"

/-- What is wrong with a configuration. -/
inductive Problem where
  /-- Something else is there than has to be. -/
  | mismatch (found : String) (expected : Kind)
  /-- A text is not what its tag says. -/
  | badTag (text : String) (tag : Yaml.CoreTag)
  /-- A field is given twice. -/
  | repeatedField (field : Field)
  deriving DecidableEq, Repr

/-- The problem in words. -/
def Problem.message : Problem → String
  | mismatch found expected => "invalid type: " ++ found ++ ", expected " ++ expected.noun
  | badTag text tag => "invalid value: string " ++ Text.quoted text ++ ", expected " ++ tag.noun
  | repeatedField field => "duplicate field `" ++ field.key ++ "`"

/-- Why a file gives no configuration. -/
inductive Fault where
  /-- The document ends early. -/
  | document (fault : Yaml.DocumentFault)
  /-- The document ends early without a fault. -/
  | unfinished
  /-- The document is no configuration; with the way to the value, which is empty for the whole. -/
  | unfit (way : String) (problem : Problem) (mark : Yaml.Mark)
  /-- Another document follows. -/
  | severalDocuments
  deriving DecidableEq, Repr

/-- The fault in words. -/
def Fault.message : Fault → String
  | document fault => fault.message
  | unfinished => "EOF while parsing a value"
  | unfit way problem mark => (if way = "" then "" else way ++ ": ") ++ problem.message ++ mark.text
  | severalDocuments => "deserializing from YAML containing more than one document is not supported"

/-- The parts that are left to read. -/
abbrev Parts := List (Yaml.Part × Yaml.Mark)

/-! ## Parts -/

section

variable (d : Yaml.Document)

/-- The next part, its mark and the parts behind it. -/
def nextPart : Parts → Except Fault (Yaml.Part × Yaml.Mark × Parts)
  | (part, mark) :: rest => .ok (part, mark, rest)
  | [] => .error ((d.fault.map .document).getD .unfinished)

/-- The next value: its first part and mark, the parts in it if it is a collection, and whether it is
given by a reference. -/
def nextValue (parts : Parts) : Except Fault (Yaml.Part × Yaml.Mark × Parts × Bool) := do
  let (part, mark, rest) ← nextPart d parts
  match part with
  | .reference number =>
    let (part, mark, inside) ← nextPart d (d.target number)
    return (part, mark, inside, true)
  | part => return (part, mark, rest, false)

/-- The fault that a value is not what it has to be. -/
def misfit (way : String) (part : Yaml.Part) (mark : Yaml.Mark) (expected : Kind) : Fault :=
  let mismatch found := .unfit way (.mismatch found expected) mark
  match part with
  | .scalar s =>
    match s.meaning with
    | .ok meaning => mismatch meaning.noun
    | .error tag => .unfit way (.badTag s.content tag) mark
  | .sequenceStart => mismatch "sequence"
  | .mappingStart => mismatch "map"
  | _ => .unfinished

/-- Reads a text that `accept` makes something of. -/
def readScalar {α : Type} (way : String) (expected : Kind) (accept : Yaml.Scalar → Option α)
    (parts : Parts) : Except Fault (α × Parts) := do
  let (part, mark, _) ← nextValue d parts
  let found := match part with
    | .scalar s => accept s
    | _ => none
  match found with
  | some value => return (value, parts.tail)
  | none => .error (misfit way part mark expected)

/-- Reads a text of any meaning. -/
def readText (way : String) (expected : Kind) (parts : Parts) : Except Fault (String × Parts) :=
  readScalar d way expected (fun s => some s.content) parts

/-- Reads a whole number. -/
def readWhole (way : String) (parts : Parts) : Except Fault (Nat × Parts) :=
  readScalar d way .whole
    (fun s => if s.mayBe .whole then Yaml.Meaning.unsigned? (Nat.pow 2 64 - 1) s.content else none) parts

/-- Reads a truth value. -/
def readTruth (way : String) (parts : Parts) : Except Fault (Bool × Parts) :=
  readScalar d way .truth (fun s => if s.mayBe .truth then Yaml.Meaning.truth? s.content else none) parts

/-- Reads the items of a list of paths from the one with the given number on; the fuel bounds how many
they are. -/
def readItems (way : String) : Nat → Nat → Parts → Except Fault (List Path × Parts)
  | 0, _, parts => .ok ([], parts)
  | fuel + 1, i, parts => do
    let (part, _, rest) ← nextPart d parts
    match part with
    | .sequenceEnd => return ([], rest)
    | _ =>
      let (path, parts) ← readText d (way ++ "[" ++ toString i ++ "]") .path parts
      let (paths, parts) ← readItems way fuel (i + 1) parts
      return (path :: paths, parts)

/-- Reads a list of paths. -/
def readPaths (way : String) (parts : Parts) : Except Fault (List Path × Parts) := do
  let (part, mark, inside, isReference) ← nextValue d parts
  match part with
  | .sequenceStart =>
    let (paths, rest) ← readItems d way (inside.length + 1) 0 inside
    return (paths, if isReference then parts.tail else rest)
  | .scalar s => if s.isEmpty then return ([], parts.tail) else .error (misfit way part mark .list)
  | _ => .error (misfit way part mark .list)

/-- The parts behind a value whose collections are `depth` deep. -/
def skipValue : Nat → Parts → Except Fault Parts
  | _, [] => .error ((d.fault.map .document).getD .unfinished)
  | depth, (part, _) :: rest =>
    match part with
    | .sequenceStart | .mappingStart => skipValue (depth + 1) rest
    | .sequenceEnd | .mappingEnd => if depth ≤ 1 then .ok rest else skipValue (depth - 1) rest
    | _ => if depth = 0 then .ok rest else skipValue depth rest

/-! ## Fields -/

/-- Reads the value of a field into a configuration. -/
def readField (way : String) (c : Config) (parts : Parts) : Field → Except Fault (Config × Parts)
  | .busNameStart => do
    let (value, rest) ← readText d way .text parts
    return ({ c with busNameStart := value }, rest)
  | .objectPathBase => do
    let (value, rest) ← readText d way .text parts
    return ({ c with objectPathBase := value }, rest)
  | .managerInterface => do
    let (value, rest) ← readText d way .text parts
    return ({ c with managerInterface := value }, rest)
  | .managersSubdir => do
    let (value, rest) ← readText d way .path parts
    return ({ c with managersSubdir := value }, rest)
  | .managerFileExtension => do
    let (value, rest) ← readText d way .text parts
    return ({ c with managerFileExtension := value }, rest)
  | .listTimeout => do
    let (value, rest) ← readWhole d way parts
    return ({ c with listTimeout := value }, rest)
  | .callTimeout => do
    let (value, rest) ← readWhole d way parts
    return ({ c with callTimeout := value }, rest)
  | .alwaysIntrospect => do
    let (value, rest) ← readTruth d way parts
    return ({ c with alwaysIntrospect := value }, rest)
  | .extraDataDirs => do
    let (value, rest) ← readPaths d way parts
    return ({ c with extraDataDirs := value }, rest)

/-- Reads the fields that are left, up to the end of the mapping that begins at `start`; `seen` are
those that were read. The fuel bounds how many they are. -/
def readFields (start : Yaml.Mark) : Nat → List Field → Config → Parts → Except Fault Config
  | 0, _, c, _ => .ok c
  | fuel + 1, seen, c, parts => do
    let (part, _, _) ← nextPart d parts
    match part with
    | .mappingEnd => return c
    | _ =>
      let way := match part with
        | .scalar s => s.content
        | _ => "?"
      let (key, parts) ← readText d "" .key parts
      match Field.ofKey? key with
      | none => readFields start fuel seen c (← skipValue d 0 parts)
      | some field =>
        if field ∈ seen then .error (.unfit "" (.repeatedField field) start)
        else
          let (c, parts) ← readField d way c parts field
          readFields start fuel (field :: seen) c parts

end

/-! ## Files -/

/-- The configuration in a document. -/
def ofDocument (d : Yaml.Document) : Except Fault Config := do
  let (part, mark, rest) ← nextPart d d.parts
  let config ← (match part with
    | .mappingStart => readFields d mark (rest.length + 1) [] {} rest
    | .nothing => .ok {}
    | .scalar s => if s.isEmpty then .ok {} else .error (misfit "" part mark .config)
    | _ => .error (misfit "" part mark .config))
  match d.fault with
  | some fault => .error (.document fault)
  | none => if d.isFollowed then .error .severalDocuments else .ok config

/-- The configuration in the text of a file. -/
def ofText (text : String) : Except Fault Config := ofDocument (Yaml.Document.ofText text)

end Roster.Config
