import CallWire.Tls.Der
/-!
This module contains the constraints that an authority puts on the names in certificates: lists of
names that are permitted and of names that are excluded. A server has an address and a name in a
directory, and only constraints on names of these kinds concern it.
-/

namespace CallWire

inductive ConstrainedName where
  | directory
  | addresses (b : Bytes)
  | foreign
  deriving DecidableEq, Repr, Inhabited

namespace ConstrainedName

def foreignTags : List UInt8 := [0xA0, 0x81, 0x82, 0xA3, 0xA5, 0x86, 0x88]

def ofElement? (b : Bytes) : Option ConstrainedName :=
  match Der.read b with
  | some (⟨tag, content⟩, []) =>
    if tag = 0xA4 then some .directory
    else if tag = 0x87 then some (.addresses content)
    else if foreignTags.contains tag then some .foreign
    else none
  | _ => none

def maskBytes : List UInt8 := [0x00, 0x80, 0xC0, 0xE0, 0xF0, 0xF8, 0xFC, 0xFE, 0xFF]

/--
Whether an address agrees with another one in the bits of a mask, whose ones must be its first bits.
`ended` says whether they are over. The mask is looked at as far as the addresses agree.
-/
def agree (ended : Bool) : (address base mask : Bytes) → Option Bool
  | a :: address, b :: base, m :: mask =>
    if !maskBytes.contains m || (ended && m ≠ 0) then none
    else if (a ^^^ b) &&& m ≠ 0 then some false
    else agree (ended || m ≠ 0xFF) address base mask
  | _, _, _ => some true

def holds (address b : Bytes) : Option Bool :=
  if b.length = 8 then agree false address (b.take 4) (b.drop 4)
  else if b.length = 32 then some false
  else none

def covers (address : Bytes) : ConstrainedName → Option (Option Bool)
  | .foreign => some none
  | .directory => none
  | .addresses b => (holds address b).map some

end ConstrainedName

namespace NameConstraints

def readNames : (fuel : Nat) → Bytes → Option (List ConstrainedName)
  | 0, _ => some []
  | fuel + 1, b =>
    if b.isEmpty then some []
    else do
      let (element, rest) ← Der.expect Der.sequence b
      return (← ConstrainedName.ofElement? element) :: (← readNames fuel rest)

def readList (tag : UInt8) (b : Bytes) : Option (List ConstrainedName × Bytes) :=
  match Der.optional tag b with
  | (some content, rest) => (readNames content.length content).map (·, rest)
  | (none, rest) => some ([], rest)

def verdicts (address : Bytes) (names : List ConstrainedName) : Option (List Bool) :=
  (names.mapM (ConstrainedName.covers address)).map (List.filterMap id)

/--
Whether constraints permit the names of a server with an address. No constraint on names in
directories does, because they are not compared.
-/
def permit (constraints address : Bytes) : Bool :=
  Option.isSome do
    let (permitted, rest) ← readList (Der.field 0) constraints
    let (excluded, []) ← readList (Der.field 1) rest | none
    let permitted ← verdicts address permitted
    let excluded ← verdicts address excluded
    if (permitted.isEmpty || permitted.any id) && !excluded.any id then some () else none

end NameConstraints
end CallWire
