import CallWire.Yaml.Token
/-!
This module contains the documents of YAML texts as trees. An alias names an anchor before it by a
number, and stands for the last node with that number, which may be a node around or after it.
-/

namespace CallWire

namespace Yaml

inductive Node where
  | scalar (tag : Option String) (style : Style) (text : String)
  | sequence (items : List Node)
  | mapping (members : List (Node × Node))
  | alias (number : Nat)
  deriving Repr, Inhabited

structure Anchored where
  number : Nat
  place : Nat
  node : Node
  deriving Repr, Inhabited

structure Document where
  root : Option Node
  anchored : List Anchored
  deriving Repr, Inhabited

def Document.target? (d : Document) (number : Nat) : Option Node :=
  let places := d.anchored.filter (·.number = number)
  let last := places.foldl (fun last a =>
    match last with
    | none => some a
    | some b => if b.place < a.place then some a else some b) none
  last.map Anchored.node

def Document.follow (d : Document) : Node → Option Node
  | .alias number => d.target? number
  | node => some node

structure Composer where
  tokens : List Token
  handles : List (String × String) := []
  /-- The number of each name's last anchor. A name that comes again changes its number. -/
  anchors : List (String × Nat) := []
  started : Nat := 0
  anchored : List Anchored := []
  deriving Inhabited

namespace Composer

def peek? (c : Composer) : Option Token := c.tokens.head?

def next (c : Composer) : Composer := { c with tokens := c.tokens.tail }

def empty (tag : Option String) : Node := .scalar tag .plain ""

def resolveTag (c : Composer) (handle suffix : String) : Option String :=
  if handle.isEmpty then some suffix else (c.handles.lookup handle).map (· ++ suffix)

structure Properties where
  anchor : Option String := none
  tag : Option String := none
  deriving Inhabited

def readProperties (c : Composer) : Option (Properties × Composer) :=
  match c.tokens with
  | .anchor name :: .tag handle suffix :: rest =>
    (c.resolveTag handle suffix).map (fun tag =>
      ({ anchor := some name, tag := some tag }, { c with tokens := rest }))
  | .tag handle suffix :: .anchor name :: rest =>
    (c.resolveTag handle suffix).map (fun tag =>
      ({ anchor := some name, tag := some tag }, { c with tokens := rest }))
  | .anchor name :: rest => some ({ anchor := some name }, { c with tokens := rest })
  | .tag handle suffix :: rest =>
    (c.resolveTag handle suffix).map (fun tag => ({ tag := some tag }, { c with tokens := rest }))
  | _ => some ({}, c)

/--
A node with an anchor starts here. The anchor's number is the count of the names that anchors before
it have, so anchors may share a number.
-/
def openAnchor (c : Composer) (p : Properties) : Composer :=
  match p.anchor with
  | none => c
  | some name =>
    let others := c.anchors.filter (·.1 ≠ name)
    { c with anchors := (name, c.anchors.length) :: others, started := c.started + 1 }

def closeAnchor (p : Properties) (before : Composer) (step : Node × Composer) : Node × Composer :=
  match p.anchor with
  | none => step
  | some _ =>
    let done : Anchored :=
      { number := before.anchors.length, place := before.started, node := step.1 }
    (step.1, { step.2 with anchored := done :: step.2.anchored })

def endsItem : Option Token → Bool
  | some .blockEntry | some .blockEnd => true
  | _ => false

def endsMember : Option Token → Bool
  | some .key | some .value | some .blockEnd => true
  | _ => false

def endsIndentless (t : Option Token) : Bool := endsMember t || t == some .blockEntry

/-- The reader of a node: whether it may be a block, and whether it may be indentless. -/
abbrev NodeReader := (block indentless : Bool) → Composer → Option (Node × Composer)

def nodeOrEmpty (read : NodeReader) (ends : Option Token → Bool) (block indentless : Bool)
    (c : Composer) : Option (Node × Composer) :=
  if ends c.peek? then some (empty none, c) else read block indentless c

def readBlockItems (read : NodeReader) :
    (fuel : Nat) → List Node → Composer → Option (Node × Composer)
  | 0, _, _ => none
  | fuel + 1, items, c =>
    match c.peek? with
    | some .blockEntry => do
      let (item, c) ← nodeOrEmpty read endsItem true false c.next
      readBlockItems read fuel (item :: items) c
    | some .blockEnd => some (.sequence items.reverse, c.next)
    | _ => none

def readIndentlessItems (read : NodeReader) :
    (fuel : Nat) → List Node → Composer → Option (Node × Composer)
  | 0, _, _ => none
  | fuel + 1, items, c =>
    match c.peek? with
    | some .blockEntry => do
      let (item, c) ← nodeOrEmpty read endsIndentless true false c.next
      readIndentlessItems read fuel (item :: items) c
    | _ => some (.sequence items.reverse, c)

def readBlockValue (read : NodeReader) (c : Composer) : Option (Node × Composer) :=
  match c.peek? with
  | some .value => nodeOrEmpty read endsMember true true c.next
  | _ => some (empty none, c)

def readBlockMembers (read : NodeReader) :
    (fuel : Nat) → List (Node × Node) → Composer → Option (Node × Composer)
  | 0, _, _ => none
  | fuel + 1, members, c =>
    match c.peek? with
    | some .key => do
      let (key, c) ← nodeOrEmpty read endsMember true true c.next
      let (value, c) ← readBlockValue read c
      readBlockMembers read fuel ((key, value) :: members) c
    | some .blockEnd => some (.mapping members.reverse, c.next)
    | _ => none

def endsFlow (close : Token) (t : Option Token) : Bool := t == some .flowEntry || t == some close

def readFlowValue (read : NodeReader) (close : Token) (c : Composer) : Option (Node × Composer) :=
  match c.peek? with
  | some .value => nodeOrEmpty read (endsFlow close) false false c.next
  | _ => some (empty none, c)

def readFlowPair (read : NodeReader) (c : Composer) : Option (Node × Composer) := do
  let ends (t : Option Token) : Bool := t == some .value || endsFlow .flowSequenceEnd t
  let (key, c) ← if ends c.peek? then some (empty none, c.next) else read false false c
  let (value, c) ← readFlowValue read .flowSequenceEnd c
  return (.mapping [(key, value)], c)

def readFlowItems (read : NodeReader) :
    (fuel : Nat) → List Node → Composer → Option (Node × Composer)
  | 0, _, _ => none
  | fuel + 1, items, c =>
    if c.peek? = some .flowSequenceEnd then some (.sequence items.reverse, c.next)
    else do
      let c ← if items.isEmpty then some c
        else if c.peek? = some .flowEntry then some c.next else none
      match c.peek? with
      | some .flowSequenceEnd => some (.sequence items.reverse, c.next)
      | some .key =>
        let (item, c) ← readFlowPair read c.next
        readFlowItems read fuel (item :: items) c
      | _ =>
        let (item, c) ← read false false c
        readFlowItems read fuel (item :: items) c

def readFlowMembers (read : NodeReader) :
    (fuel : Nat) → List (Node × Node) → Composer → Option (Node × Composer)
  | 0, _, _ => none
  | fuel + 1, members, c =>
    if c.peek? = some .flowMappingEnd then some (.mapping members.reverse, c.next)
    else do
      let c ← if members.isEmpty then some c
        else if c.peek? = some .flowEntry then some c.next else none
      match c.peek? with
      | some .flowMappingEnd => some (.mapping members.reverse, c.next)
      | some .key =>
        let ends (t : Option Token) : Bool := t == some .value || endsFlow .flowMappingEnd t
        let (key, c) ← nodeOrEmpty read ends false false c.next
        let (value, c) ← readFlowValue read .flowMappingEnd c
        readFlowMembers read fuel ((key, value) :: members) c
      | _ =>
        let (key, c) ← read false false c
        readFlowMembers read fuel ((key, empty none) :: members) c

def scalarTag (p : Properties) : Option String := p.tag.filter (· ≠ "!")

def readContent (read : NodeReader) (p : Properties) (block indentless : Bool) (c : Composer) :
    Option (Node × Composer) :=
  let fuel := c.tokens.length.succ
  match c.peek? with
  | some (.scalar style text) => some (.scalar (scalarTag p) style text, c.next)
  | some .flowSequenceStart => readFlowItems read fuel [] c.next
  | some .flowMappingStart => readFlowMembers read fuel [] c.next
  | some .blockEntry =>
    if indentless then readIndentlessItems read fuel [] c
    else if p.anchor.isSome || p.tag.isSome then some (empty p.tag, c)
    else none
  | some .blockSequenceStart =>
    if block then readBlockItems read fuel [] c.next
    else if p.anchor.isSome || p.tag.isSome then some (empty p.tag, c)
    else none
  | some .blockMappingStart =>
    if block then readBlockMembers read fuel [] c.next
    else if p.anchor.isSome || p.tag.isSome then some (empty p.tag, c)
    else none
  | _ => if p.anchor.isSome || p.tag.isSome then some (empty p.tag, c) else none

def readNode : (fuel : Nat) → NodeReader
  | 0, _, _, _ => none
  | fuel + 1, block, indentless, c =>
    match c.peek? with
    | some (.alias name) => (c.anchors.lookup name).map (fun number => (.alias number, c.next))
    | _ => do
      let (p, c) ← c.readProperties
      let step ← readContent (readNode fuel) p block indentless (c.openAnchor p)
      return closeAnchor p c step

def readDirectives : (fuel : Nat) → (versioned : Bool) → Composer → Option (Bool × Composer)
  | 0, versioned, c => some (versioned, c)
  | fuel + 1, versioned, c =>
    match c.peek? with
    | some (.versionDirective major minor) =>
      if versioned || major ≠ 1 || (minor ≠ 1 && minor ≠ 2) then none
      else readDirectives fuel true c.next
    | some (.tagDirective handle lead) =>
      if (c.handles.lookup handle).isSome then none
      else readDirectives fuel versioned { c.next with handles := (handle, lead) :: c.handles }
    | _ => some (versioned, c)

def defaultHandles : List (String × String) := [("!", "!"), ("!!", "tag:yaml.org,2002:")]

def isDirective : Option Token → Bool
  | some (.versionDirective _ _) | some (.tagDirective _ _) => true
  | _ => false

def endsDocument (t : Option Token) : Bool :=
  t.isNone || isDirective t || t == some .documentStart || t == some .documentEnd

def readDocument (c : Composer) : Option Document :=
  let fuel := c.tokens.length.succ
  if c.tokens.isEmpty then some { root := none, anchored := [] }
  else do
    let (root, c) ←
      if isDirective c.peek? || c.peek? = some .documentStart then do
        let (_, c) ← readDirectives fuel false c
        if c.peek? ≠ some .documentStart then none
        else
          let c := { c.next with handles := c.handles ++ defaultHandles }
          if endsDocument c.peek? then some (empty none, c) else readNode fuel true false c
      else readNode fuel true false { c with handles := defaultHandles }
    if c.tokens.all (· == .documentEnd) then some { root := some root, anchored := c.anchored }
    else none

end Composer

def document? (text : String) : Option Document :=
  (tokens? text.toList).bind (fun tokens => Composer.readDocument { tokens := tokens })

end Yaml
end CallWire
