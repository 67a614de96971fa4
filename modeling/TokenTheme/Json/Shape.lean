import TokenTheme.Json.Reader
/-!
# Shapes of values

A shape says which values stand for a domain type, in two ways that agree on well-formed texts:
`decode` takes a value that was read before, `read` takes the bytes of a text and so decides from
left to right between a malformed text and a value of the wrong kind.

A record stands in an object, by the names of its fields, or in an array, by their order. Members
of other names are passed over. The first member that is wrong decides; a missing field is noticed
after that, in the order of the fields.
-/
namespace TokenTheme.Json

/-- The values that stand for a type. -/
structure Shape (α : Type) where
  decode : Json → Except Mismatch α
  /-- Takes a value from the front of a text, with at most so many levels below it. -/
  read : Nat → Reader α

namespace Reader

/-- Looks at a value far enough to tell what it is, and refuses it. -/
def refuse {α : Type} (expected : Expected) : Reader α := do
  let j ← scalarOr (return .array []) (return .object [])
  throw (.mismatch (.kind j.found expected))

def nested {α : Type} (r : Nat → Reader α) : Nat → Reader α
  | 0 => throw .malformed
  | depth + 1 => do
    let _ ← next
    r depth

def lift {α : Type} : Except Mismatch α → Reader α
  | .ok a => return a
  | .error cause => throw (.mismatch cause)

def variantName : Reader String := do
  if (← peek) == 0x22 then
    let _ ← next
    stringBody
  else refuse .variantName

end Reader

namespace Shape

open Reader

variable {α β : Type}

instance [Inhabited α] : Inhabited (Shape α) := ⟨⟨fun _ => .ok default, fun _ => return default⟩⟩

/-- The same values, standing for what `f` makes of them. -/
def map (f : α → β) (shape : Shape α) : Shape β where
  decode j := f <$> shape.decode j
  read depth := f <$> shape.read depth

def any : Shape Json where
  decode j := .ok j
  read depth := collect <$> value depth

/-- A string; a value of any other kind counts as none. -/
def lenientString : Shape (Option String) :=
  any.map string?

def string : Shape String where
  decode
    | .string s => .ok s
    | j => .error (.kind j.found .string)
  read _ := do
    if (← peek) == 0x22 then
      let _ ← next
      stringBody
    else refuse .string

def bool : Shape Bool where
  decode
    | .bool b => .ok b
    | j => .error (.kind j.found .bool)
  read _ := do
    match ← scalarOr (return .array []) (return .object []) with
    | .bool b => return b
    | j => throw (.mismatch (.kind j.found .bool))

def byteOf : Number → Except Mismatch UInt8
  | .integer i => if 0 ≤ i ∧ i < 256 then .ok i.toNat.toUInt8 else .error (.range i .byte)
  | .real bits => .error (.kind (.number (.real bits)) .byte)

def byte : Shape UInt8 where
  decode
    | .number n => byteOf n
    | j => .error (.kind j.found .byte)
  read _ := do
    match ← scalarOr (return .array []) (return .object []) with
    | .number n => lift (byteOf n)
    | j => throw (.mismatch (.kind j.found .byte))

def nullable (shape : Shape α) : Shape (Option α) where
  decode
    | .null => .ok none
    | j => some <$> shape.decode j
  read depth := do
    if (← peek) == 0x6E then
      keyword "null".toList
      return none
    else some <$> shape.read depth

def variantOf (table : List (String × α)) (name : String) : Except Mismatch α :=
  match table.lookup name with
  | some a => .ok a
  | none => .error (.variant name (table.map (·.1)))

/-- A variant by its name: alone, or as the only name of an object whose value is `null`. -/
def variant (table : List (String × α)) : Shape α where
  decode
    | .string name => variantOf table name
    | .object [(name, content)] => do
      let a ← variantOf table name
      match content with
      | .null => .ok a
      | j => .error (.kind j.found .unit)
    | .object _ => .error .ambiguous
    | j => .error (.kind j.found .variant)
  read depth := do
    let b ← peek
    if b == 0x22 then
      let _ ← next
      lift (variantOf table (← stringBody))
    else if b == 0x7B then
      nested (fun _ => do
        let a ← lift (variantOf table (← variantName))
        colon
        if (← peek) == 0x6E then keyword "null".toList else refuse .unit
        if (← peek) != 0x7D then throw .malformed
        let _ ← next
        return a) depth
    else throw .malformed

def list (shape : Shape α) : Shape (List α) where
  decode
    | .array items => items.mapM shape.decode
    | j => .error (.kind j.found .sequence)
  read depth := do
    if (← peek) == 0x5B then
      nested (fun depth => do
        let items ← fold 0x5D (fun items => do return (← shape.read depth) :: items) []
        return items.reverse) depth
    else refuse .sequence

/-- The members of an object from the left, added to a dictionary. -/
def decodeEntries (shape : Shape α) : List (String × Json) → Dict α → Except Mismatch (Dict α)
  | [], d => .ok d
  | (name, j) :: rest, d => do decodeEntries shape rest (d.insert name (← shape.decode j))

/-- An object of any names, of which the last value counts. -/
def dict (shape : Shape α) : Shape (Dict α) where
  decode
    | .object members => decodeEntries shape members .empty
    | j => .error (.kind j.found .map)
  read depth := do
    if (← peek) == 0x7B then
      nested (fun depth => fold 0x7D (fun d => do
        quote
        let name ← stringBody
        colon
        return d.insert name (← shape.read depth)) .empty) depth
    else refuse .map

end Shape

inductive Presence where
  | required
  /-- When the record stands in an object. -/
  | optionalByName
  | optional
  deriving DecidableEq

structure Field (σ : Type) where
  name : String
  presence : Presence
  decode : Json → σ → Except Mismatch σ
  read : Nat → σ → Reader σ

def Field.of {σ α : Type} (name : String) (presence : Presence) (shape : Shape α)
    (put : α → σ → σ) : Field σ where
  name := name
  presence := presence
  decode j s := (put · s) <$> shape.decode j
  read depth s := (put · s) <$> shape.read depth

namespace Shape

open Reader

variable {σ : Type}

/-- A record under construction and the names of the fields that it has been given. -/
structure Partial (σ : Type) where
  record : σ
  given : List String

def decodeMember (fields : List (Field σ)) (p : Partial σ) (name : String) (j : Json) :
    Except Mismatch (Partial σ) :=
  match fields.find? (·.name = name) with
  | none => .ok p
  | some field =>
    if name ∈ p.given then .error (.duplicate name)
    else do return ⟨← field.decode j p.record, name :: p.given⟩

def decodeMembers (fields : List (Field σ)) :
    List (String × Json) → Partial σ → Except Mismatch (Partial σ)
  | [], p => .ok p
  | (name, j) :: rest, p => do decodeMembers fields rest (← decodeMember fields p name j)

/-- The record, unless a required field was not given. -/
def Partial.complete (p : Partial σ) (fields : List (Field σ)) : Except Mismatch σ :=
  match fields.find? fun field => field.presence = .required && field.name ∉ p.given with
  | some field => .error (.missing field.name)
  | none => .ok p.record

/-- Takes the items of an array as the fields from `index` on; gives the items left over. -/
def decodeItems (name : String) (count : Nat) :
    (index : Nat) → List (Field σ) → List Json → σ → Except Mismatch (σ × List Json)
  | _, [], items, s => .ok (s, items)
  | index, field :: fields, [], s =>
    if field.presence = .optional then decodeItems name count (index + 1) fields [] s
    else .error (.short index name count)
  | index, field :: fields, item :: items, s => do
    decodeItems name count (index + 1) fields items (← field.decode item s)

def readMember (fields : List (Field σ)) (depth : Nat) (p : Partial σ) : Reader (Partial σ) := do
  quote
  let name ← stringBody
  match fields.find? (·.name = name) with
  | none =>
    colon
    skip
    return p
  | some field =>
    if name ∈ p.given then throw (.mismatch (.duplicate name))
    colon
    return ⟨← field.read depth p.record, name :: p.given⟩

/-- Reads the items of an array as the fields from `index` on, and its end. -/
def readItems (name : String) (count depth : Nat) :
    (index : Nat) → List (Field σ) → σ → Reader σ
  | _, [], s => do
    if (← peek) != 0x5D then throw .malformed
    let _ ← next
    return s
  | index, field :: fields, s => do
    if ← another 0x5D (index == 0) then
      readItems name count depth (index + 1) fields (← field.read depth s)
    else
      match (field :: fields).findIdx? (·.presence ≠ .optional) with
      | some later => throw (.mismatch (.short (index + later) name count))
      | none => do
        let _ ← next
        return s

def record (name : String) (blank : σ) (fields : List (Field σ)) : Shape σ where
  decode
    | .object members => do
      let p ← decodeMembers fields members ⟨blank, []⟩
      p.complete fields
    | .array items => do
      match ← decodeItems name fields.length 0 fields items blank with
      | (s, []) => .ok s
      | (_, _ :: _) => .error (.long items.length)
    | j => .error (.kind j.found (.record name))
  read depth := do
    let b ← peek
    if b == 0x7B then
      nested (fun depth => do
        let p ← fold 0x7D (readMember fields depth) ⟨blank, []⟩
        lift (p.complete fields)) depth
    else if b == 0x5B then
      nested (fun depth => readItems name fields.length depth 0 fields blank) depth
    else refuse (.record name)

/-- Reads a text that holds one value of the shape and nothing after it. -/
def ofText {α : Type} (shape : Shape α) (text : String) : Except Stop α := do
  let (a, rest) ← (shape.read maxDepth).run text.toUTF8.toList
  let _ ← finish.run rest
  return a

end Shape

end TokenTheme.Json
