import CallWire.Failure.Kind
/-!
This module contains the reading of a server's error messages. A message is searched for phrases and
for two forms with names between back quotes; whatever holds none of them is kept as it is.
-/

namespace CallWire

namespace FailureKind

def authenticationPhrases : List String :=
  ["problem with authentication", "You don't have permission to perform this query type"]

def selectionPhrases : List String := ["Specify a namespace", "Specify a database"]

def holds (phrase : List Char) : List Char → Bool
  | [] => phrase.isEmpty
  | c :: rest => phrase.isPrefixOf (c :: rest) || holds phrase rest

def after? : (phrase : List Char) → List Char → Option (List Char)
  | [], s => some s
  | _ :: _, [] => none
  | p :: phrase, c :: rest => if p = c then after? phrase rest else none

def name? (stops : List Char) (s : List Char) : Option (List Char × List Char) :=
  match s.span (fun c => !stops.contains c) with
  | ([], _) => none
  | (name, rest) => some (name, rest)

/-- A table, a colon and an id, up to a back quote. The table ends at the first colon. -/
def recordName? (s : List Char) : Option ((List Char × List Char) × List Char) := do
  let (table, rest) ← name? [':', '`'] s
  let rest ← after? [':'] rest
  let (id, rest) ← name? ['`'] rest
  let rest ← after? ['`'] rest
  return ((table, id), rest)

def existingRecord? (s : List Char) : Option (List Char × List Char) := do
  let rest ← after? "Database record `".toList s
  let (record, rest) ← recordName? rest
  let _ ← after? " already exists".toList rest
  return record

/--
The record named after a value of at least one character on one line, where the value is as long as
possible: of several records that may be meant, the last one.
-/
def recordAfterValue? (found : Option (List Char × List Char)) :
    List Char → Option (List Char × List Char)
  | [] => found
  | c :: rest =>
    if c = '\n' then found
    else
      let here := (do
        let rest ← after? ", with record `".toList rest
        let (record, _) ← recordName? rest
        return record)
      recordAfterValue? (here <|> found) rest

def indexedRecord? (s : List Char) : Option (List Char × List Char × List Char) := do
  let rest ← after? "Database index `".toList s
  let (index, rest) ← name? ['`'] rest
  let rest ← after? "` already contains ".toList rest
  let (table, id) ← recordAfterValue? none rest
  return (index, table, id)

def firstMatch? {α} (form : List Char → Option α) : List Char → Option α
  | [] => form []
  | c :: rest =>
    match form (c :: rest) with
    | some a => some a
    | none => firstMatch? form rest

def classify (message : String) : FailureKind :=
  let text := message.toList
  if authenticationPhrases.any (fun p => holds p.toList text) then .authenticationFailed
  else if selectionPhrases.any (fun p => holds p.toList text) then .noDatabaseSelected
  else
    match firstMatch? existingRecord? text with
    | some (table, id) => .recordAlreadyExists (String.ofList table) (String.ofList id)
    | none =>
      match firstMatch? indexedRecord? text with
      | some (index, table, id) =>
        .uniqueIndexViolation (String.ofList table) (String.ofList index) (String.ofList id)
      | none => .generic message

end FailureKind
end CallWire
