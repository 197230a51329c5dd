/-!
Line breaking. A document is a list of pieces: texts, places where a line may end, and groups
around them. A group that fits into the rest of the line stays on it; in one that does not, a
consistent group ends the line at every break, an inconsistent one where the next part would not
fit.
-/

namespace ApiClient.Layout

structure Break where
  /-- Spaces when the line goes on. -/
  blank : Nat := 0
  /-- Added to the indentation of the next line. -/
  offset : Int := 0
  /-- Written before the line ends, only when it does. -/
  before : List Char := []
  /-- Written at the beginning of the next line. -/
  after : List Char := []
  /-- Written when the line goes on. -/
  inline : List Char := []
  /-- Left out when it comes last in its group. -/
  ifNonempty : Bool := false
  /-- The line goes on in any case; the break only bounds what must fit. -/
  never : Bool := false
  deriving DecidableEq, Repr

inductive Piece
  | text (s : String)
  | brk (b : Break)
  | opening (offset : Int) (consistent : Bool)
  | closing
  /-- Changes the offset of the break before it. -/
  | offset (n : Int)
  /-- Closes a group that must not stay on the line when it is wider than `max`. -/
  | closingMax (max : Nat)
  /-- Stands for a part that has no layout. -/
  | missing
  deriving DecidableEq, Repr

def infinite : Nat := 0xffff

def margin : Int := 89

/-- The room that counts on a new line however far it is indented. -/
def minSpace : Int := 60

/-! ### Settled documents -/

/-- A document without marks: offsets are in their breaks, and empty groups are gone. A text may
count for more than its length. -/
inductive Item
  | text (s : String) (width : Nat)
  | brk (b : Break)
  | opening (offset : Int) (consistent : Bool)
  | closing
  deriving DecidableEq, Repr

def Item.width : Item → Nat
  | .text _ width => width
  | .brk b => b.blank
  | _ => 0

/-- The width behind the innermost group that is open at the end; items come last first. -/
def openWidth : Nat → List Item → Nat
  | _, [] => 0
  | 0, .opening .. :: _ => 0
  | depth + 1, .opening .. :: rest => openWidth depth rest
  | depth, .closing :: rest => openWidth (depth + 1) rest
  | depth, item :: rest => item.width + openWidth depth rest

/-- Ends the innermost group: one with nothing in it but a break disappears. -/
def close : List Item → List Item
  | .brk _ :: .opening .. :: rest => rest
  | .brk b :: rest => .closing :: if b.ifNonempty then rest else .brk b :: rest
  | rest => .closing :: rest

/-- Applies a mark or adds an item to those before it, which come last first. -/
def settle (before : List Item) : Piece → List Item
  | .text s => .text s s.utf8ByteSize :: before
  | .brk b => .brk b :: before
  | .opening offset consistent => .opening offset consistent :: before
  | .closing => close before
  | .offset n =>
    match before with
    | .brk b :: rest => .brk { b with offset := b.offset + n } :: rest
    | rest => rest
  | .closingMax max =>
    if max < openWidth 0 before then close (.text "" infinite :: before) else close before
  | .missing => before

def items (doc : List Piece) : List Item := (doc.foldl settle []).reverse

/-! ### How much must fit -/

/-- Each item with the width from its beginning up to the next break that could end the line. For
the opening of a group that is a break behind the group. Positions count from the end; `next`
holds the position of the next break for every group that is open, innermost first. -/
def measure (items : List Item) : List (Item × Nat) :=
  (items.foldr step ([], 0, [0])).1
where
  step (item : Item) : List (Item × Nat) × Nat × List Nat → List (Item × Nat) × Nat × List Nat
    | (done, position, next) =>
      let here := position + item.width
      match item with
      | .text .. => ((item, item.width) :: done, here, next)
      | .closing => ((item, 0) :: done, here, next.head?.getD 0 :: next)
      | .opening .. =>
        let outer := next.drop 1
        ((item, here - outer.head?.getD 0) :: done, here, outer)
      | .brk _ => ((item, here - next.head?.getD 0) :: done, here, here :: next.drop 1)

/-! ### Printing -/

/-- A group that fits, or one that is broken, with the indentation outside it. -/
inductive Frame
  | fits
  | broken (indent : Int) (consistent : Bool)
  deriving DecidableEq, Repr

structure State where
  out : List Char := []
  space : Int := margin
  indent : Int := 0
  /-- Spaces that are written before the next text. -/
  pending : Nat := 0
  frames : List Frame := []

namespace State

def flush (st : State) : State :=
  { st with out := List.replicate st.pending ' ' ++ st.out, pending := 0 }

def put (st : State) (cs : List Char) : State := { st with out := cs.reverse ++ st.out }

def text (st : State) (s : String) : State :=
  let st := st.flush.put s.toList
  { st with space := st.space - s.utf8ByteSize }

def goOn (st : State) (b : Break) : State :=
  let st := st.put b.inline
  { st with pending := st.pending + b.blank, space := st.space - b.blank - b.inline.length }

def endLine (st : State) (b : Break) : State :=
  let st := if b.before.isEmpty then st else st.flush.put b.before
  let indent := st.indent + b.offset
  let st := { st.put ['\n'] with pending := indent.toNat, space := max (margin - indent) minSpace }
  if b.after.isEmpty then st
  else { st.flush.put b.after with space := st.space - b.after.length }

def stays (st : State) (b : Break) (size : Nat) : Bool :=
  b.never || match st.frames with
    | .fits :: _ => true
    | .broken _ true :: _ => false
    | .broken _ false :: _ | [] => size ≤ st.space

def print (st : State) : Item × Nat → State
  | (.text s _, _) => st.text s
  | (.brk b, size) => if st.stays b size then st.goOn b else st.endLine b
  | (.opening offset consistent, size) =>
    if st.space < size then
      { st with frames := .broken st.indent consistent :: st.frames, indent := st.indent + offset }
    else { st with frames := .fits :: st.frames }
  | (.closing, _) =>
    match st.frames with
    | .broken indent _ :: rest => { st with indent := indent, frames := rest }
    | _ :: rest => { st with frames := rest }
    | [] => st

end State

/-- Whether every part of a document has a layout, so that the document can be rendered. -/
def isComplete (doc : List Piece) : Bool := !doc.contains .missing

/-- The text of a document, which is complete. -/
def render (doc : List Piece) : String :=
  String.ofList (((measure (items doc)).foldl State.print {}).out.reverse)

/-! ### Building documents -/

def indentWidth : Int := 4

def text (s : String) : List Piece := [.text s]

def consistent (offset : Int) (body : List Piece) : List Piece :=
  .opening offset true :: body ++ [.closing]

def filled (offset : Int) (body : List Piece) : List Piece :=
  .opening offset false :: body ++ [.closing]

def space : List Piece := [.brk { blank := 1 }]
def zeroBreak : List Piece := [.brk {}]
def hardBreak : List Piece := [.brk { blank := infinite }]
def hardBreakIfNonempty : List Piece := [.brk { blank := infinite, ifNonempty := true }]
def spaceIfNonempty : List Piece := [.brk { blank := 1, ifNonempty := true }]
def neverBreak : List Piece := [.brk { never := true }]

/-- A space at which the line does not end. -/
def nbsp : List Piece := text " "

/-- A comma after an item: with a space, or after the last one only at the end of a line. -/
def trailingComma (isLast : Bool) : List Piece :=
  if isLast then [.brk { before := [','] }] else text "," ++ space

/-- Like `trailingComma`, with a space after the last item when the line goes on. -/
def trailingCommaOrSpace (isLast : Bool) : List Piece :=
  if isLast then [.brk { blank := 1, before := [','] }] else text "," ++ space

def outdent : List Piece := [.offset (-indentWidth)]

def missing : List Piece := [.missing]

end ApiClient.Layout
