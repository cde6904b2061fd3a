import PushWake.Json.Reader
import PushWake.Text.Quoted
/-!
# Reading documents as values of a type

A decoder takes a node to a value of its type, or to the first complaint in the order of the text.
It wants the parts that it knows and passes over the rest. Complaints about a text carry the
position; complaints about a value that was parsed before carry none.
-/

namespace PushWake.Json

/-- What a decoder finds instead of what it expects. -/
inductive Found where
  | null
  | boolean (b : Bool)
  | number (n : Number)
  | string (s : String)
  | sequence
  | map
  | unitVariant
deriving DecidableEq, Repr, Inhabited

namespace Found

/-- What was found, in words. -/
def text : Found → String
  | null => "null"
  | boolean b => "boolean `" ++ (if b then "true" else "false") ++ "`"
  | number (.float x) => "floating point `" ++ (Number.float x).text ++ "`"
  | number n => "integer `" ++ n.text ++ "`"
  | string s => "string " ++ Text.quoted s
  | sequence => "sequence"
  | map => "map"
  | unitVariant => "unit variant"

end Found

/-- What keeps a document from being a value of the type. -/
inductive Complaint where
  | flaw (f : Flaw)
  | wrongType (found : Found) (expected : String)
  | wrongValue (found : Found) (expected : String)
  | wrongLength (length : Nat) (expected : String)
  | missingField (name : String)
  | duplicateField (name : String)
  | unknownVariant (name : String) (known : List String)
  | noVariantFits (type : String)
deriving DecidableEq, Repr, Inhabited

namespace Complaint

/-- The names to choose from, in words. -/
def choiceText : List String → String
  | [] => "there are no variants"
  | [a] => "expected `" ++ a ++ "`"
  | [a, b] => "expected `" ++ a ++ "` or `" ++ b ++ "`"
  | names => "expected one of " ++ String.intercalate ", " (names.map fun n => "`" ++ n ++ "`")

/-- A complaint in words. -/
def text : Complaint → String
  | flaw f => f.message
  | wrongType found expected => "invalid type: " ++ found.text ++ ", expected " ++ expected
  | wrongValue found expected => "invalid value: " ++ found.text ++ ", expected " ++ expected
  | wrongLength n expected => "invalid length " ++ toString n ++ ", expected " ++ expected
  | missingField name => "missing field `" ++ name ++ "`"
  | duplicateField name => "duplicate field `" ++ name ++ "`"
  | unknownVariant name known => "unknown variant `" ++ name ++ "`, " ++ choiceText known
  | noVariantFits type => "data did not match any variant of untagged enum " ++ type

end Complaint

/-- A complaint and where in the text it arises. -/
structure DecodeError where
  complaint : Complaint
  position : Option Position
deriving DecidableEq, Repr, Inhabited

namespace DecodeError

/-- The error in words. -/
def message (e : DecodeError) : String :=
  match e.position with
  | some p => e.complaint.text ++ " at line " ++ toString p.line ++ " column " ++ toString p.column
  | none => e.complaint.text

/-- A fault of the text itself. -/
def ofFault (f : Fault) : DecodeError := ⟨.flaw f.flaw, some f.position⟩

/-- A complaint at a place. -/
def here (place : Place) (complaint : Complaint) : DecodeError := ⟨complaint, place.position?⟩

end DecodeError

/-- A reader of nodes. -/
abbrev Decoder (α : Type) := Node → Except DecodeError α

/-- The value, unless it has a fault. -/
def orFault {α : Type} : Except Fault α → Except DecodeError α
  | .ok a => .ok a
  | .error f => .error (.ofFault f)

/-- The complaint of nesting too deep, if it applies. -/
def checkDepth : Option Fault → Except DecodeError Unit
  | none => .ok ()
  | some f => .error (.ofFault f)

namespace Closing

/-- The list ends with its bracket, for a reader that wants it. -/
def check : Closing → Except DecodeError Unit
  | broken b => .error (.ofFault b.wanted)
  | _ => .ok ()

/-- The list ends with its bracket, for a reader that passes over it. -/
def checkSkipped : Closing → Except DecodeError Unit
  | broken b => .error (.ofFault b.skipped)
  | _ => .ok ()

/-- The place after the bracket. -/
def stop : Closing → Place
  | closed p => p
  | _ => .value

end Closing

namespace Node

/-- The complaint that a node is not of the expected type. A value that cannot be read at all has
its own fault. -/
def mismatch (expected : String) : Node → DecodeError
  | missing _ b => .ofFault b.wanted
  | broken _ b => .ofFault b.wanted
  | leaf _ stop value =>
    match value with
    | .null => .here stop (.wrongType .null expected)
    | .bool b => .here stop (.wrongType (.boolean b) expected)
    | .number (.ok n) => .here stop (.wrongType (.number n) expected)
    | .number (.error f) => .ofFault f
    | .string (.ok s) => .here stop (.wrongType (.string s) expected)
    | .string (.error f) => .ofFault f
  | array start .. => .here start (.wrongType .sequence expected)
  | object start .. => .here start (.wrongType .map expected)
  | keyless start .. => .here start (.wrongType .map expected)

mutual

/-- Passes over a node. -/
def skip : Node → Except DecodeError Unit
  | missing _ b => .error (.ofFault b.skipped)
  | broken _ b => .error (.ofFault b.skipped)
  | leaf .. => .ok ()
  | array _ _ _ items closing => do
    skipItems items
    closing.checkSkipped
  | object _ _ _ members closing => do
    skipMembers members
    closing.checkSkipped
  | keyless _ _ _ _ b => .error (.ofFault b.skipped)

/-- Passes over items. -/
def skipItems : List Node → Except DecodeError Unit
  | [] => .ok ()
  | item :: rest => do
    skip item
    skipItems rest

/-- Passes over members. -/
def skipMembers : List (Key × Node × Place) → Except DecodeError Unit
  | [] => .ok ()
  | (_, value, _) :: rest => do
    skip value
    skipMembers rest

end

mutual

/-- The value of a node, whatever it is. -/
def toJson : Node → Except DecodeError Json
  | missing _ b => .error (.ofFault b.wanted)
  | broken _ b => .error (.ofFault b.wanted)
  | leaf _ _ value =>
    match value with
    | .null => .ok .null
    | .bool b => .ok (.bool b)
    | .number n => (orFault n).map .number
    | .string s => (orFault s).map .string
  | array _ _ tooDeep items closing => do
    checkDepth tooDeep
    let items ← toItems items
    closing.check
    pure (.array items)
  | object _ _ tooDeep members closing => do
    checkDepth tooDeep
    let members ← toMembers members
    closing.check
    pure (Json.mkObject members)
  | keyless _ _ tooDeep _ b => do
    checkDepth tooDeep
    .error (.ofFault b.wanted)

/-- The values of items. -/
def toItems : List Node → Except DecodeError (List Json)
  | [] => .ok []
  | item :: rest => do
    let item ← toJson item
    let rest ← toItems rest
    pure (item :: rest)

/-- The names and values of members. -/
def toMembers : List (Key × Node × Place) → Except DecodeError (List (String × Json))
  | [] => .ok []
  | (key, value, _) :: rest => do
    let name ← orFault key.name
    let value ← toJson value
    let rest ← toMembers rest
    pure ((name, value) :: rest)

end

mutual

/-- The node set aside: everything in it is wanted, and its positions are forgotten. The order and
the repetitions of members are kept. -/
def buffered : Node → Except DecodeError Node
  | missing _ b => .error (.ofFault b.wanted)
  | broken _ b => .error (.ofFault b.wanted)
  | leaf _ _ value =>
    match value with
    | .number (.error f) => .error (.ofFault f)
    | .string (.error f) => .error (.ofFault f)
    | value => .ok (leaf .buffer .buffer value)
  | array _ _ tooDeep items closing => do
    checkDepth tooDeep
    let items ← bufferedItems items
    closing.check
    pure (array .buffer .buffer none items (.closed .buffer))
  | object _ _ tooDeep members closing => do
    checkDepth tooDeep
    let members ← bufferedMembers members
    closing.check
    pure (object .buffer .buffer none members (.closed .buffer))
  | keyless _ _ tooDeep _ b => do
    checkDepth tooDeep
    .error (.ofFault b.wanted)

/-- Items set aside. -/
def bufferedItems : List Node → Except DecodeError (List Node)
  | [] => .ok []
  | item :: rest => do
    let item ← buffered item
    let rest ← bufferedItems rest
    pure (item :: rest)

/-- Members set aside. -/
def bufferedMembers : List (Key × Node × Place) → Except DecodeError (List (Key × Node × Place))
  | [] => .ok []
  | (key, value, _) :: rest => do
    let name ← orFault key.name
    let value ← buffered value
    let rest ← bufferedMembers rest
    pure ((⟨.ok name, .buffer, .buffer⟩, value, .buffer) :: rest)

end

end Node

namespace Decode

/-- A string. -/
def string : Decoder String
  | .leaf _ _ (.string s) => orFault s
  | node => .error (node.mismatch "a string")

/-- A natural number of 64 bits. -/
def uint64 : Decoder UInt64
  | .leaf _ _ (.number (.ok (.natural n))) => .ok n
  | .leaf _ stop (.number (.ok (.negative n))) =>
    .error (.here stop (.wrongValue (.number (.negative n)) "u64"))
  | node => .error (node.mismatch "u64")

/-- A value that may be null. -/
def option {α : Type} (d : Decoder α) : Decoder (Option α)
  | .leaf _ _ .null => .ok none
  | node => (d node).map some

/-- The items of a list, one after the other. -/
def items {α : Type} (d : Decoder α) : List Node → Except DecodeError (List α)
  | [] => .ok []
  | item :: rest => do
    let a ← d item
    let rest ← items d rest
    pure (a :: rest)

/-- A list. -/
def list {α : Type} (d : Decoder α) : Decoder (List α)
  | .array _ _ tooDeep nodes closing => do
    checkDepth tooDeep
    let as ← items d nodes
    closing.check
    pure as
  | node => .error (node.mismatch "a sequence")

/-! ## Records -/

/-- A field of a record, seen from the record under way: whether it is filled already, how a node
fills it, and what fills it where an array ends before it. -/
structure Field (ρ : Type) where
  name : String
  isFilled : ρ → Bool
  fill : Node → ρ → Except DecodeError ρ
  default : Option (ρ → ρ)

/-- Fills a record from the members of an object. -/
def fillFromMembers {ρ : Type} (fields : List (Field ρ)) (r : ρ) :
    List (Key × Node × Place) → Except DecodeError ρ
  | [] => .ok r
  | (key, value, _) :: rest => do
    let name ← orFault key.name
    match fields.find? fun f => f.name == name with
    | none =>
      value.skip
      fillFromMembers fields r rest
    | some f =>
      if f.isFilled r then .error (.here key.resume (.duplicateField name))
      else
        let r ← f.fill value r
        fillFromMembers fields r rest

/-- The number of fields in words. -/
def elementsText (count : Nat) : String :=
  toString count ++ (if count = 1 then " element" else " elements")

/-- Fills a record from the items of an array, in the order of its fields, and gives the items left.
An array that ends before a field leaves it to the default; one that breaks off there is a fault. -/
def fillFromItems {ρ : Type} (expected : String) (closing : Closing) (index : Nat) (r : ρ) :
    List (Field ρ) → List Node → Except DecodeError (ρ × List Node)
  | [], nodes => .ok (r, nodes)
  | f :: fields, node :: nodes => do
    let r ← f.fill node r
    fillFromItems expected closing (index + 1) r fields nodes
  | f :: fields, [] => do
    closing.check
    match f.default with
    | some d => fillFromItems expected closing (index + 1) (d r) fields []
    | none => .error (.here closing.stop (.wrongLength index expected))

/-- An array that is read as a record must end after its fields. -/
def checkNoMore (start : Place) (fieldCount itemCount : Nat) (closing : Closing) :
    List Node → Except DecodeError Unit
  | extra :: _ =>
    match start with
    | .text _ => .error (.here extra.peek (.flaw .trailingText))
    | .value => .error (.here .value (.wrongLength itemCount "fewer elements in array"))
    | .buffer =>
      .error (.here .buffer (.wrongLength itemCount (elementsText fieldCount ++ " in sequence")))
  | [] =>
    match closing with
    | .broken b =>
      match b.wanted.flaw with
      | .expectedCommaOrBracket => .error (.ofFault ⟨.trailingText, b.wanted.position⟩)
      | _ => .error (.ofFault b.wanted)
    | _ => .ok ()

/-- The value of a full record, or the complaint of the first field that it lacks. -/
def complete {α : Type} (stop : Place) : Except String α → Except DecodeError α
  | .ok a => .ok a
  | .error name => .error (.here stop (.missingField name))

/-- A record: an object with its fields as members, or an array of its fields in order. -/
def record {ρ α : Type} (title : String) (fields : List (Field ρ)) (empty : ρ)
    (finish : ρ → Except String α) : Decoder α
  | .object _ _ tooDeep members closing => do
    checkDepth tooDeep
    let r ← fillFromMembers fields empty members
    closing.check
    complete closing.stop (finish r)
  | .array start _ tooDeep nodes closing => do
    checkDepth tooDeep
    let expected := title ++ " with " ++ elementsText fields.length
    let (r, rest) ← fillFromItems expected closing 0 empty fields nodes
    checkNoMore start fields.length nodes.length closing rest
    complete closing.stop (finish r)
  | .keyless _ _ tooDeep _ b => do
    checkDepth tooDeep
    .error (.ofFault b.wanted)
  | node => .error (node.mismatch title)

/-! ## Choices -/

/-- One of the values to choose from: a name alone, or a name with a value of its own. -/
inductive Variant (α : Type) where
  | plain (name : String) (value : α)
  | carrying (name : String) (content : Decoder α)

namespace Variant

/-- The name of a variant. -/
def name {α : Type} : Variant α → String
  | plain n _ => n
  | carrying n _ => n

end Variant

/-- The variant of a name. -/
def pick {α : Type} (variants : List (Variant α)) (stop : Place) (name : String) :
    Except DecodeError (Variant α) :=
  match variants.find? fun v => v.name == name with
  | some v => .ok v
  | none => .error (.here stop (.unknownVariant name (variants.map Variant.name)))

/-- Nothing but null. -/
def unit : Decoder Unit
  | .leaf _ _ .null => .ok ()
  | node => .error (node.mismatch "unit")

/-- Whether a text breaks off inside a string. -/
def breaksInString (f : Fault) : Bool :=
  match f.flaw with
  | .endInString | .badEscape | .controlCharacter | .loneSurrogate | .unpairedSurrogate => true
  | _ => false

/-- An object that is read as a choice must end after its one member. -/
def checkSingle (after : Place) (more : Bool) (closing : Closing) : Except DecodeError Unit :=
  if more then .error (.here after (.flaw .expectedValue))
  else
    match closing with
    | .broken b =>
      if b.wanted.flaw = .endInObject then .error (.ofFault b.wanted)
      else .error (.here after (.flaw .expectedValue))
    | _ => .ok ()

/-- A choice in a text: the name of a variant as a string, or an object whose one member has the
name of the variant and its content. -/
def choice {α : Type} (variants : List (Variant α)) : Decoder α
  | .leaf _ stop (.string s) => do
    let name ← orFault s
    match ← pick variants stop name with
    | .plain _ value => pure value
    | .carrying _ _ => .error (.here .value (.wrongType .unitVariant "newtype variant"))
  | .object _ _ tooDeep members closing => do
    checkDepth tooDeep
    match members with
    | [] =>
      match closing with
      | .broken b => .error (.ofFault b.wanted)
      | closing => .error (.here closing.stop (.flaw .expectedValue))
    | (key, node, after) :: more =>
      let name ← orFault key.name
      let value ← match ← pick variants key.stop name with
        | .plain _ value => do
          unit node
          pure value
        | .carrying _ content => content node
      checkSingle after (!more.isEmpty) closing
      pure value
  | .keyless _ _ tooDeep head _ => do
    checkDepth tooDeep
    .error (head.mismatch "variant identifier")
  | .missing _ b => .error (.ofFault b.wanted)
  | .broken peek b =>
    if breaksInString b.wanted then .error (.ofFault b.wanted)
    else .error (.here peek (.flaw .expectedValue))
  | node => .error (.here node.peek (.flaw .expectedValue))

/-- A choice between names alone. -/
def name {α : Type} (names : List (String × α)) : Decoder α :=
  choice (names.map fun n => .plain n.1 n.2)

/-! ## Whole texts -/

/-- Reads a text from end to end. -/
def text {α : Type} (d : Decoder α) (s : String) : Except DecodeError α := do
  let document := Document.ofText s
  let a ← d document.root
  match document.trailing with
  | some f => .error (.ofFault f)
  | none => pure a

/-- Reads a value that was parsed before. -/
def value {α : Type} (d : Decoder α) (v : Json) : Except DecodeError α :=
  d (Node.ofJson v)

end Decode

end PushWake.Json
