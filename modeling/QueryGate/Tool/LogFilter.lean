import QueryGate.Notice
import QueryGate.Pattern.Reader
import QueryGate.Text.Blank
import QueryGate.Text.Offset
import QueryGate.Text.Split
import QueryGate.Tool.Number

/-!
Which notices are shown.

A filter is a list of directives, each of which lets notices of some targets through
up to a level. Of the directives that apply to a notice the most specific one
decides, and of several alike the last one. Directives that are about spans apply to
no notice, because there are no spans here, and a notice that no directive applies
to is not shown.
-/

namespace QueryGate.Tool

/-- What the notices of a target are let through up to. -/
inductive Level where
  | off
  | upTo (severity : Severity)
deriving DecidableEq, Repr

def Level.admits : Level → Severity → Bool
  | off, _ => false
  | upTo limit, severity => severity.rank ≤ limit.rank

namespace Level

/-- The levels by number. -/
def numbered : List Level :=
  [off, upTo .error, upTo .warn, upTo .info, upTo .debug, upTo .trace]

def name : Level → String
  | off => "off"
  | upTo severity => severity.name

/-- Reads a level, which is written as a number or a name. The case of the name does
not matter. -/
def ofText? (text : List Char) : Option Level :=
  match (unsignedValue? text).bind fun n => numbered[n]? with
  | some level => some level
  | none =>
      let lower := String.ofList (text.map Char.toLower)
      numbered.find? (·.name = lower)

/-- Reads a level that may be left out, when everything is let through. -/
def ofText (text : List Char) : Option Level :=
  if text.isEmpty then some (upTo .trace) else ofText? text

end Level

/-- One directive. It is about the targets of some beginning, or about all of them,
may name a span, and may ask for fields, each with a value or without. -/
structure Directive where
  target : Option (List Char)
  span : Bool
  fields : List (List Char × Bool)
  level : Level
deriving DecidableEq, Repr

/-- Why a filter cannot be read: the text is no list of directives, or a part of a
directive begins or ends inside a character. -/
inductive FilterFault where
  | invalid
  | cutCharacter
deriving DecidableEq, Repr

/-- Whether a text spells a number: digits, perhaps with a point and an exponent, or
a word for what is no such number. -/
def isNumber (text : List Char) : Bool :=
  let unsigned := match text with
    | '+' :: rest => rest
    | '-' :: rest => rest
    | rest => rest
  let isMark := fun c : Char => c == 'e' || c == 'E'
  let (significand, exponent) := unsigned.span (!isMark ·)
  let (whole, fraction) := significand.span (· != '.')
  let isPower :=
    fun digits : List Char => !digits.isEmpty && digits.all Char.isDigit
  ["inf", "infinity", "nan"].contains (String.ofList (unsigned.map Char.toLower)) ||
    (whole.all Char.isDigit && (fraction.drop 1).all Char.isDigit &&
      !(whole.isEmpty && (fraction.drop 1).isEmpty) &&
      match exponent with
      | [] => true
      | _ :: '+' :: digits => isPower digits
      | _ :: '-' :: digits => isPower digits
      | _ :: digits => isPower digits)

/-- Whether a text may be asked for as the value of a field: a number, or a pattern
that can be followed byte by byte. -/
def isFieldValue (text : List Char) : Bool :=
  isNumber text || (Pattern.Expression.read? text).any fun e => !e.looksAtWords

/-- What of a directive was read. The numbers are the offsets where a part
begins. -/
inductive DirectiveState where
  | start
  | levelOrTarget (first : Nat)
  | span (first : Nat)
  | field (first : Nat)
  | fields
  | target
  | level (first : Nat)
deriving DecidableEq, Repr

namespace Directive

/-- The directive that nothing was read of. -/
def blank : Directive :=
  ⟨none, false, [], .upTo .trace⟩

/-- Adds a field, which must not be empty. What follows a second equality sign does
not count. -/
def addField (d : Directive) (text : List Char) : Except FilterFault Directive :=
  match text.isEmpty, Text.fields '=' text with
  | false, [name] => .ok { d with fields := d.fields ++ [(name, false)] }
  | false, name :: value :: _ =>
      if isFieldValue value then .ok { d with fields := d.fields ++ [(name, true)] }
      else .error .invalid
  | _, _ => .error .invalid

/-- A part of the text of a directive. -/
def part (text : List Char) (first last : Nat) : Except FilterFault (List Char) :=
  match Text.between? first last text with
  | some found => .ok found
  | none => .error .cutCharacter

/-- The last part of the text of a directive. -/
def lastPart (text : List Char) (first : Nat) : Except FilterFault (List Char) :=
  match Text.from? first text with
  | some found => .ok found
  | none => .error .cutCharacter

/-- The level that ends a directive. -/
def withLevel (d : Directive) : Option Level → Except FilterFault Directive
  | some level => .ok { d with level := level }
  | none => .error .invalid

/-- Reads the character at an offset. The parts of a directive are cut from its
whole text, although the offsets do not count the blanks before it. -/
def step (text : List Char) (offset : Nat) (c : Char) :
    DirectiveState × Directive → Except FilterFault (DirectiveState × Directive)
  | (.start, d) =>
      if c = '[' then .ok (.span (offset + 1), d)
      else if c = '-' || c = ':' || c = '_' || Unicode.isAlphabetic c ||
        Unicode.isNumeric c then
        .ok (.levelOrTarget offset, d)
      else .error .invalid
  | (.levelOrTarget first, d) => do
      if c = '=' then
        return (.level (offset + 1),
          { d with target := some (← part text first offset) })
      else if c = '[' then
        return (.span (offset + 1),
          { d with target := some (← part text first offset) })
      else return (.levelOrTarget first, d)
  | (.span first, d) => do
      if c = ']' then
        let _ ← part text first offset
        return (.target, { d with span := true })
      else if c = '\x7b' then
        let name ← part text first offset
        return (.field (offset + 1), { d with span := !name.isEmpty })
      else return (.span first, d)
  | (.field first, d) => do
      if c = '\x7d' then return (.fields, ← d.addField (← part text first offset))
      else return (.field first, d)
  | (.fields, d) => if c = ']' then .ok (.target, d) else .error .invalid
  | (.target, d) =>
      if c = '=' then .ok (.level (offset + 1), d) else .error .invalid
  | (.level first, d) => .ok (.level first, d)

/-- Reads the characters from an offset on. -/
def walk (text : List Char) (offset : Nat) :
    List Char → DirectiveState × Directive →
    Except FilterFault (DirectiveState × Directive)
  | [], state => .ok state
  | c :: rest, state => do
      walk text (offset + c.utf8Size) rest (← step text offset c state)

/-- What a directive says once all of it was read. -/
def finish (text : List Char) :
    DirectiveState × Directive → Except FilterFault Directive
  | (.levelOrTarget first, d) => do
      let found ← lastPart text first
      match Level.ofText? found with
      | some level => return { d with level := level }
      | none => return { d with target := some found }
  | (.level first, d) => do d.withLevel (Level.ofText (← lastPart text first))
  | (.target, d) => .ok d
  | _ => .error .invalid

/-- Reads a directive. -/
def ofText (text : List Char) : Except FilterFault Directive := do
  finish text (← walk text 0 (Text.trim text) (.start, blank))

/-- Whether a directive applies to notices at all. -/
def isStatic (d : Directive) : Bool :=
  !d.span && d.fields.all fun field => !field.2

/-- Whether a directive applies to the notices of a target. A notice has one
field. -/
def appliesTo (d : Directive) (target : String) : Bool :=
  (d.target.all fun first => first.isPrefixOf target.toList) &&
    d.fields.all fun field => field.1 = "message".toList

/-- How specific a directive is: the length of its target, and the number of its
fields. -/
def specificity (d : Directive) : Nat × Nat :=
  (match d.target with
    | some target => (String.ofList target).utf8ByteSize + 1
    | none => 0, d.fields.length)

/-- Whether a directive is at least as specific as another one. -/
def outranks (a b : Directive) : Bool :=
  decide (b.specificity.1 < a.specificity.1) ||
    a.specificity.1 == b.specificity.1 && decide (b.specificity.2 ≤ a.specificity.2)

end Directive

/-- Which notices are shown. -/
structure LogFilter where
  directives : List Directive
deriving DecidableEq, Repr

namespace LogFilter

/-- The directives of a list that apply to notices. -/
def ofDirectives (directives : List Directive) : LogFilter :=
  ⟨directives.filter Directive.isStatic⟩

/-- What a word stands for that is a level by itself: the level of the notices of
this program, while all else shows its errors. -/
def expand (text : String) : String :=
  if ["error", "warn", "info", "debug", "trace"].contains text then
    s!"error,quarry={text},quarry_core={text}"
  else if text = "full" then "trace"
  else text

/-- Reads a filter. The first directive with a fault decides which fault it is. -/
def ofText (text : String) : Except FilterFault LogFilter := do
  let parts := (Text.fields ',' (expand text).toList).filter (!·.isEmpty)
  return ofDirectives (← parts.mapM Directive.ofText)

/-- The directive that decides about a target. -/
def decisive? (filter : LogFilter) (target : String) : Option Directive :=
  (filter.directives.filter (·.appliesTo target)).foldl
    (fun best d =>
      match best with
      | some b => if d.outranks b then some d else some b
      | none => some d) none

/-- Whether a notice is shown. -/
def shows (filter : LogFilter) (notice : Notice) : Bool :=
  match filter.decisive? notice.target with
  | some d => d.level.admits notice.severity
  | none => false

end LogFilter

end QueryGate.Tool
