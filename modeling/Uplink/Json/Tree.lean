/-
Module: Uplink.Json.Tree
Purpose: The shape of a JSON text: what the grammar accepts, before any limit on depth, numbers or
  surrogates is applied.
Main exports: JsonTree, JsonTree.Expected, JsonTree.step, JsonTree.ofTokens?, JsonTree.read?
-/
import Uplink.Json.Token

namespace Uplink

/-- A JSON text as the grammar sees it: members in written order, numbers and texts not yet decoded. -/
inductive JsonTree where
  | null
  | boolean (value : Bool)
  | number (literal : Literal)
  | text (raw : RawText)
  | array (items : List JsonTree)
  | object (members : List (RawText × JsonTree))
deriving Repr, Inhabited

namespace JsonTree

/-!
The reader is a pushdown machine.  Its stack holds the containers that are open, innermost first, with
their finished parts in reverse; its state says what may come next.
-/

/-- A container that is still open. -/
inductive Pending where
  | array (done : List JsonTree)
  | object (done : List (RawText × JsonTree))
  | member (done : List (RawText × JsonTree)) (key : RawText)
deriving Repr, Inhabited

/-- What may come next. -/
inductive Expected where
  | value
  | firstItem
  | separator
  | firstKey
  | key
  | colon (key : RawText)
  | nothing (result : JsonTree)
deriving Repr, Inhabited

/-- The machine's configuration. -/
structure Reading where
  expected : Expected
  stack : List Pending
deriving Repr, Inhabited

/-- Hand a finished value to the innermost open container. -/
def deliver (value : JsonTree) : List Pending → Option Reading
  | [] => some { expected := .nothing value, stack := [] }
  | .array done :: outer => some { expected := .separator, stack := .array (value :: done) :: outer }
  | .member done key :: outer =>
      some { expected := .separator, stack := .object ((key, value) :: done) :: outer }
  | .object _ :: _ => none

/-- Start a value: a scalar is finished at once, a bracket opens a container. -/
def beginValue (stack : List Pending) : Token → Option Reading
  | .null => deliver .null stack
  | .boolean value => deliver (.boolean value) stack
  | .number literal => deliver (.number literal) stack
  | .text raw => deliver (.text raw) stack
  | .openArray => some { expected := .firstItem, stack := .array [] :: stack }
  | .openObject => some { expected := .firstKey, stack := .object [] :: stack }
  | _ => none

/-- Close the innermost container. -/
def closeWith (stack : List Pending) : Token → Option Reading
  | .closeArray =>
      match stack with
      | .array done :: outer => deliver (.array done.reverse) outer
      | _ => none
  | .closeObject =>
      match stack with
      | .object done :: outer => deliver (.object done.reverse) outer
      | _ => none
  | _ => none

/-- One token. -/
def step (reading : Reading) (token : Token) : Option Reading :=
  match reading.expected with
  | .value => beginValue reading.stack token
  | .firstItem =>
      match token with
      | .closeArray => closeWith reading.stack token
      | _ => beginValue reading.stack token
  | .separator =>
      match token, reading.stack with
      | .comma, .array _ :: _ => some { reading with expected := .value }
      | .comma, .object _ :: _ => some { reading with expected := .key }
      | _, _ => closeWith reading.stack token
  | .firstKey =>
      match token with
      | .text raw => some { reading with expected := .colon raw }
      | .closeObject => closeWith reading.stack token
      | _ => none
  | .key =>
      match token with
      | .text raw => some { reading with expected := .colon raw }
      | _ => none
  | .colon key =>
      match token, reading.stack with
      | .colon, .object done :: outer =>
          some { expected := .value, stack := .member done key :: outer }
      | _, _ => none
  | .nothing _ => none

/-- Many tokens. -/
def run (reading : Reading) : List Token → Option Reading
  | [] => some reading
  | token :: rest =>
      match step reading token with
      | some next => run next rest
      | none => none

/-- The tree of a token list that forms exactly one value. -/
def ofTokens? (tokens : List Token) : Option JsonTree :=
  match run { expected := .value, stack := [] } tokens with
  | some { expected := .nothing result, .. } => some result
  | _ => none

/-- The tree of a JSON text. -/
def read? (bytes : List UInt8) : Option JsonTree := do
  let tokens ← Token.scan bytes
  ofTokens? tokens

end JsonTree

end Uplink
