import QueryGate.Pattern.ByteForm
import QueryGate.Pattern.Layout
import Std.Data.HashMap

/-!
The room that patterns take when they are laid out.

A layout becomes states, numbered in the order in which they are laid out, and ways
between them. A pattern is laid out twice, for reading a text forward and backward,
and each of the two has to fit into `maxSize`. So have patterns that are looked for
together, and then the ends of groups are not remembered. A repetition is laid out
as often as it is asked for, and laying out stops as soon as the room does not
suffice.
-/

namespace QueryGate.Pattern

open QueryGate.Unicode

/-- The bytes of one state. -/
def stateSize : Nat := 32

/-- The bytes of a way from one state to several. -/
def linkSize : Nat := 4

/-- The bytes of a way that is taken on some bytes of the text. -/
def edgeSize : Nat := 8

/-- The greatest room that patterns may take, in bytes. -/
def maxSize : Nat := 10 * Nat.pow 2 20

/-- Room that is taken: a number of states, and the bytes of the ways between
them. -/
structure Room where
  states : Nat
  wayBytes : Nat
deriving DecidableEq, Repr

namespace Room

def empty : Room := ⟨0, 0⟩

def plus (a b : Room) : Room :=
  ⟨a.states + b.states, a.wayBytes + b.wayBytes⟩

def bytes (room : Room) : Nat :=
  stateSize * room.states + room.wayBytes

def fits (room : Room) : Bool :=
  decide (room.bytes ≤ maxSize)

/-- A state from which two ways lead on. -/
def fork : Room := ⟨1, 2 * linkSize⟩

end Room

/-- A step of laying out, which gives all the room that is taken after it. There is
none where that is too much. -/
abbrev Step := Room → Option Room

namespace Step

/-- Takes more room. -/
def take (more : Room) : Step := fun room =>
  let after := room.plus more
  if after.fits then some after else none

def inTurn (steps : List Step) : Step := fun room =>
  steps.foldl Option.bind (some room)

/-- A step that is done several times. -/
def times (step : Step) : Nat → Step
  | 0, room => some room
  | count + 1, room =>
      match step room with
      | some after => times step count after
      | none => none

/-- The branches of a choice. The state from which they part comes after the second
of them, with the one where they meet. -/
def apart (branches : List Step) : Step :=
  match branches with
  | first :: second :: rest =>
      inTurn (first :: second :: take ⟨2, linkSize * branches.length⟩ :: rest)
  | _ => inTurn branches

end Step

/-- The direction in which a text is read. -/
inductive Direction where
  | forward
  | backward
deriving DecidableEq, Repr

/-- What is laid out for: reading in a direction, with the ends of groups remembered
or not. -/
structure Reading where
  direction : Direction
  remembers : Bool
deriving DecidableEq, Repr

/-- The slot of some numbers, one of `slots`. -/
def slotOf (slots : UInt64) (numbers : List Nat) : Nat :=
  let mixed := numbers.foldl (fun (mixed : UInt64) number =>
    (mixed ^^^ number.toUInt64) * 1099511628211) 14695981039346656037
  (mixed % slots).toNat

/-- A set while it is laid out. Every slot holds what the last state in it consists
of, and the number of that state. -/
structure Draft where
  room : Room
  slots : UInt64
  recent : Std.HashMap Nat (List Nat × Nat)

namespace Draft

/-- The number of the state in a slot, if it consists of `content`. -/
def known? (draft : Draft) (slot : Nat) (content : List Nat) : Option Nat :=
  match draft.recent[slot]? with
  | some (known, number) => if known = content then some number else none
  | none => none

/-- The number of a state that consists of `content`: of the one that has its slot,
if it consists of the same, and of a new state otherwise. -/
def stateFor (draft : Draft) (content : List Nat) (wayBytes : Nat) : Nat × Draft :=
  let slot := slotOf draft.slots content
  match draft.known? slot content with
  | some number => (number, draft)
  | none =>
      let number := draft.room.states
      (number,
        { draft with
          room := draft.room.plus ⟨1, wayBytes⟩
          recent := draft.recent.insert slot (content, number) })

end Draft

/-- Forms by their first ranges, each with what follows it. Forms with the same
first range stand next to each other. -/
def byFirst : List ByteForm → List (ByteRange × List ByteForm)
  | [] => []
  | [] :: rest => byFirst rest
  | (range :: tail) :: rest =>
      match byFirst rest with
      | [] => [(range, [tail])]
      | (next, tails) :: further =>
          if next = range then (range, tail :: tails) :: further
          else (range, [tail]) :: (next, tails) :: further

/-- The state at which forms begin. What follows a first range is laid out before
it, and nothing follows the last range of a form but `goal`. Forms have at most
`depth` ranges. -/
def stateOfForms (goal : Nat) : Nat → List ByteForm → Draft → Nat × Draft
  | 0, _, draft => (goal, draft)
  | depth + 1, forms, draft =>
      let heads := byFirst forms
      let (content, draft) := heads.foldl (fun (content, draft) (range, tails) =>
        let (next, draft) :=
          if tails.all List.isEmpty then (goal, draft)
          else stateOfForms goal depth tails draft
        (content ++ [range.first, range.last, next], draft)) ([], draft)
      draft.stateFor content (edgeSize * heads.length)

/-- The state at which a form begins that is read backward and leads to a state. -/
def stateOfReversed (goal : Nat) (form : ByteForm) (draft : Draft) : Nat × Draft :=
  form.foldl (fun (next, draft) range =>
    draft.stateFor [next, range.first, range.last] 0)
    (goal, draft)

/-- Lays out forms. States are shared: forward those that begin the same forms, and
backward those that end them. -/
def layForms (direction : Direction) (forms : List ByteForm) : Step := fun room =>
  let after := match direction with
    | .forward =>
        let draft : Draft := ⟨room.plus ⟨1, 0⟩, 10000, ∅⟩
        (stateOfForms room.states 4 forms draft).2.room
    | .backward =>
        let draft : Draft := ⟨room.plus ⟨2, linkSize * forms.length⟩, 1000, ∅⟩
        (forms.foldl (fun draft form =>
          (stateOfReversed (room.states + 1) form draft).2)
          draft).room
  if after.fits then some after else none

/-- Lays out a set. -/
def layCodes (direction : Direction) (codes : CodeSet) : Step :=
  if codes.isAscii then Step.take ⟨2, edgeSize * codes.intervals.length⟩
  else layForms direction (byteForms codes)

/-- The texts split where one of them ends. Texts that end before any other goes on
end together. -/
def splitAtEnds (texts : List (List UInt8)) : List (List (List UInt8)) :=
  let split := texts.foldr (fun text groups =>
    match text, groups with
    | [], _ => [] :: groups
    | _, group :: further => (text :: group) :: further
    | _, [] => [[text]]) [[]]
  match split with
  | [] :: groups => [] :: groups.dropWhile List.isEmpty
  | groups => groups

/-- What follows a byte in those of the texts that begin with it. -/
def restsAfter (byte : UInt8) (texts : List (List UInt8)) : List (List UInt8) :=
  texts.filterMap fun
    | first :: rest => if first = byte then some rest else none
    | [] => none

/-- The room for a tree of texts of at most `depth` bytes. Its leaves take none. -/
def treeRoom : Nat → List (List UInt8) → Room
  | 0, _ => .empty
  | depth + 1, texts =>
      if texts.all List.isEmpty then .empty
      else
        let groups := splitAtEnds texts
        groups.foldl (fun room group =>
          let heads := (group.filterMap List.head?).eraseDups
          let own : Room := match heads with
            | [] => .empty
            | [_] => ⟨1, linkSize⟩
            | _ => ⟨1, edgeSize * heads.length + linkSize⟩
          heads.foldl (fun room byte =>
            room.plus (treeRoom depth (restsAfter byte group)))
            (room.plus own)) ⟨1, linkSize * (groups.length - 1)⟩

namespace Layout

/-- Whether reading can begin at one end of the text alone. -/
def isAnchored (direction : Direction) (layout : Layout) : Bool :=
  match direction with
  | .forward => layout.startsText
  | .backward => layout.endsText

/-- The bytes of a text. -/
def textBytes? : Layout → Option (List UInt8)
  | text characters => some (characters.flatMap String.utf8EncodeChar)
  | _ => none

/-- Lays out a choice between texts alone as a tree of their bytes in the order of
reading. -/
def layTexts (direction : Direction) (texts : List (List UInt8)) : Step :=
  let read := match direction with
    | .forward => texts
    | .backward => texts.map List.reverse
  Step.take (Room.plus ⟨1, 0⟩ (treeRoom ((texts.map List.length).foldr max 0) read))

mutual

/-- Lays out a layout. -/
def lay (reading : Reading) : Layout → Step
  | nothing => Step.take ⟨1, 0⟩
  | text characters => Step.take ⟨textSize characters, 0⟩
  | oneOf codes => layCodes reading.direction codes
  | look _ => Step.take ⟨1, 0⟩
  | repeated least most item =>
      let one := item.lay reading
      let fork := Step.take Room.fork
      let place := Step.take ⟨1, 0⟩
      match least, most with
      | 0, none =>
          if item.shortest.any (0 < ·) then Step.inTurn [fork, one]
          else Step.inTurn [one, fork, fork, place]
      | least, none => Step.inTurn [Step.times one least, fork]
      | 0, some 1 => Step.inTurn [fork, one, place]
      | least, some most =>
          let must := if least = 0 then place else Step.times one least
          if most ≤ least then must
          else Step.inTurn [must, place,
            Step.times (Step.inTurn [fork, one]) (most - least)]
  | captured item =>
      let inner := item.lay reading
      let place := Step.take ⟨1, 0⟩
      if reading.remembers then Step.inTurn [place, inner, place] else inner
  | sequence items =>
      match reading.direction with
      | .forward => Step.inTurn (laySteps reading items)
      | .backward => Step.inTurn (laySteps reading items).reverse
  | choice branches =>
      match branches.mapM textBytes? with
      | some texts => layTexts reading.direction texts
      | none => Step.apart (laySteps reading branches)

def laySteps (reading : Reading) : List Layout → List Step
  | [] => []
  | item :: rest => item.lay reading :: laySteps reading rest

end

/-- Lays out patterns that are looked for together. What stands before a match is a
repetition of any byte, unless reading can begin at one end of the text alone. Every
pattern is a group, and ends in one state. -/
def layTogether (reading : Reading) (layouts : List Layout) : Step :=
  let lead : Room :=
    if layouts.all (isAnchored reading.direction) then ⟨1, 0⟩
    else Room.plus .fork ⟨2, edgeSize⟩
  Step.inTurn [Step.take lead,
    Step.apart (layouts.map fun layout =>
      Step.inTurn [(captured layout).lay reading, Step.take ⟨1, 0⟩])]

end Layout

namespace Expression

/-- Whether a pattern takes no more room than patterns may. -/
def fits (e : Expression) : Bool :=
  let layout := Layout.ofExpression e
  (Layout.layTogether ⟨.forward, true⟩ [layout] .empty).isSome &&
    (Layout.layTogether ⟨.backward, false⟩ [layout] .empty).isSome

/-- Whether patterns that are looked for together take no more room than patterns
may. -/
def fitTogether (es : List Expression) : Bool :=
  let layouts := es.map Layout.ofExpression
  (Layout.layTogether ⟨.forward, false⟩ layouts .empty).isSome &&
    (Layout.layTogether ⟨.backward, false⟩ layouts .empty).isSome

end Expression

end QueryGate.Pattern
