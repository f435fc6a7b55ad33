import QueryGate.Text.Blank
import QueryGate.Text.Split
import QueryGate.Tool.Number

/-!
Which release this is.

A release has a version of three numbers, which may be followed by a pre-release,
and may carry build metadata. Both are lists of words between dots. When the program
is built, the environment may give either; where it gives no metadata they are the
date and the revision of the sources.
-/

namespace QueryGate.Tool

/-- A version, with the words of the pre-release, where there is one. -/
structure Version where
  major : Nat
  minor : Nat
  patch : Nat
  preRelease : List String
deriving DecidableEq, Repr

namespace Version

def text (version : Version) : String :=
  s!"{version.major}.{version.minor}.{version.patch}" ++
    if version.preRelease.isEmpty then ""
    else "-" ++ String.intercalate "." version.preRelease

/-- The characters of words. -/
def isWordChar (c : Char) : Bool :=
  c.isAlphanum || c == '-'

/-- Whether a text is a number that begins with an idle zero. -/
def hasIdleZero (word : List Char) : Bool :=
  word.all Char.isDigit && decide (1 < word.length) && word.head? == some '0'

/-- Whether a text is a word of build metadata. -/
def isBuildWord (word : List Char) : Bool :=
  !word.isEmpty && word.all isWordChar

/-- Whether a text is a word of a pre-release. -/
def isPreReleaseWord (word : List Char) : Bool :=
  isBuildWord word && !hasIdleZero word

/-- Reads words between dots. -/
def words? (isWord : List Char → Bool) (text : List Char) : Option (List String) :=
  let words := Text.fields '.' text
  if words.all isWord then some (words.map String.ofList) else none

/-- Reads a number of 64 bits without idle zeros. -/
def number? (text : List Char) : Option Nat :=
  if hasIdleZero text then none else (digitsValue? text).filter (· ≤ largestWord)

/-- Reads three numbers between dots. -/
def numbers? (text : List Char) : Option (Nat × Nat × Nat) := do
  match Text.fields '.' text with
  | [major, minor, patch] =>
      return (← number? major, ← number? minor, ← number? patch)
  | _ => none

/-- Cuts a text before a mark. -/
def cutBefore (mark : Char) (text : List Char) : List Char × Option (List Char) :=
  match Text.splitOnce [mark] text with
  | some (before, after) => (before, some after)
  | none => (text, none)

/-- Reads a version, and the words of its build metadata. -/
def ofText? (text : List Char) : Option (Version × List String) := do
  let (rest, build) := cutBefore '+' text
  let (core, pre) := cutBefore '-' rest
  let (major, minor, patch) ← numbers? core
  let preRelease ← match pre with
    | some pre => words? isPreReleaseWord pre
    | none => some []
  let metadata ← match build with
    | some build => words? isBuildWord build
    | none => some []
  return (⟨major, minor, patch, preRelease⟩, metadata)

end Version

/-- The version of this program. -/
def ownVersion : Version :=
  ⟨0, 4, 0, []⟩

/-- Reads build metadata, which may be empty. -/
def metadata? (text : List Char) : Option String :=
  if text.isEmpty then some ""
  else (Version.words? Version.isBuildWord text).map (String.intercalate ".")

/-- What a build is told about the release. -/
structure Stamp where
  version : Option String
  metadata : Option String
deriving DecidableEq, Repr

namespace Stamp

/-- A build that is told nothing. -/
def blank : Stamp :=
  ⟨none, none⟩

/-- The name of the release. -/
def release (stamp : Stamp) (system processor : String) : String :=
  let version := stamp.version.getD ownVersion.text
  let metadata := match stamp.metadata with
    | some metadata => if Text.isBlankText metadata then "" else "+" ++ metadata
    | none => ""
  s!"quarry {version}{metadata} for {system} on {processor}"

end Stamp

/-- Why a build cannot be stamped. -/
inductive StampFault where
  | notAVersion (given : String)
  | metadataInVersion (given : String)
  | invalidMetadata (given : String)
deriving DecidableEq, Repr

/-- The environment variable with the version. -/
def versionVariable : String := "QUARRY_BUILD_VERSION"

/-- The environment variable with the metadata. -/
def metadataVariable : String := "QUARRY_BUILD_METADATA"

namespace StampFault

def message : StampFault → String
  | notAVersion given =>
      s!"{versionVariable}=`{given}` is not a SemVer version: malformed"
  | metadataInVersion given =>
      s!"{versionVariable}=`{given}` carries build metadata, " ++
        s!"set {metadataVariable} instead"
  | invalidMetadata given => s!"{metadataVariable}=`{given}` is invalid: malformed"

end StampFault

/-- What the sources are known by: the answers of the version control, as far as
there are any. They are clean if nothing was changed since the revision. -/
structure Checkout where
  date : Option String
  revision : Option String
  clean : Bool
deriving DecidableEq, Repr

/-- The metadata of a checkout. -/
def Checkout.metadata (checkout : Checkout) : Option String := do
  let filled := fun text : String =>
    if Text.isBlankText text then none else some (Text.trimmed text)
  let date ← checkout.date.bind filled
  let revision ← checkout.revision.bind filled
  return s!"{date}.{revision}" ++ if checkout.clean then "" else ".dirty"

/-- The version that a build is given. -/
def stampVersion : Option String → Except StampFault (Option String)
  | none => .ok none
  | some given =>
      if Text.isBlankText given then .ok none
      else
        match Version.ofText? (Text.trim given.toList) with
        | some (version, []) => .ok (some version.text)
        | some _ => .error (.metadataInVersion given)
        | none => .error (.notAVersion given)

/-- The metadata that a build is given, or those of its sources. -/
def stampMetadata (checkout : Checkout) :
    Option String → Except StampFault (Option String)
  | none => .ok checkout.metadata
  | some given =>
      match metadata? (Text.trim given.toList) with
      | some metadata => .ok (some metadata)
      | none => .error (.invalidMetadata given)

/-- What a build has to watch for changes. -/
def stampPreamble : List String :=
  [versionVariable, metadataVariable].map ("cargo:rerun-if-env-changed=" ++ ·) ++
    ["src", "crates/core/src", "build.rs", "Cargo.toml"].map
      ("cargo:rerun-if-changed=" ++ ·)

/-- The line that hands a variable to a build. -/
def stampLine (key : String) : Option String → List String
  | some value => [s!"cargo:rustc-env={key}={value}"]
  | none => []

/-- The lines of stamping a build, and what went wrong, if anything did. -/
def stampLines (version metadata : Option String) (checkout : Checkout) :
    List String × Option StampFault :=
  match stampVersion version with
  | .error fault => (stampPreamble, some fault)
  | .ok version =>
      let lines := stampPreamble ++ stampLine versionVariable version
      match stampMetadata checkout metadata with
      | .error fault => (lines, some fault)
      | .ok metadata => (lines ++ stampLine metadataVariable metadata, none)

end QueryGate.Tool
