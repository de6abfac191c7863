import Switchboard.Pattern.Matching
import Switchboard.Pattern.Reader
import Switchboard.Processor.Basic

/-!
# Texts: decoding, encoding, filtering and templates

A template is a text with holes; every hole takes the text of the payload, which is not looked at
again.
-/

namespace Switchboard.Processor

/-- What a converter between bytes and texts handles. -/
def bytesOrText : String := "bytes or text"

/-! ## Decoding and encoding -/

/-- Bytes become the text whose UTF-8 they are. -/
def decodeText : Payload → Processed
  | .text s => .passed (.text s)
  | .bytes b =>
    match Utf8.decode b with
    | .ok s => .passed (.text s)
    | .error malformed => .failed (.invalidInput ("invalid UTF-8: " ++ malformed.message))
  | p => .failed (.payload (p.mismatch bytesOrText))

/-- A text becomes its UTF-8 bytes. -/
def encodeText : Payload → Processed
  | .bytes b => .passed (.bytes b)
  | .text s => .passed (.bytes (Utf8.encode s))
  | p => .failed (.payload (p.mismatch bytesOrText))

/-- Decodes bytes. -/
def stringDecode : Processor := .quiet "string.decode" decodeText

/-- Encodes texts. -/
def stringEncode : Processor := .quiet "string.encode" encodeText

/-! ## Filtering -/

/-- Passes texts in which a pattern is found. -/
def filterText (pattern : Pattern.Expr) (p : Payload) : Processed :=
  .ofView p.asText fun s => if pattern.isFoundIn s then .passed p else .dropped

/-- Builds a filter from its pattern. -/
def stringFilter : ProcessorConstructor := fun params => do
  let text ← ProcessError.ofParam (params.getString "pattern")
  match Pattern.Expr.ofText text with
  | .ok pattern => return .quiet "string.filter" (filterText pattern)
  | .error fault => throw (.param (.invalid "pattern" fault.message))

/-! ## Templates -/

/-- The pieces of a text between its holes, which are pairs of braces. -/
def splitHoles : List Char → List (List Char)
  | [] => [[]]
  | '{' :: '}' :: rest => [] :: splitHoles rest
  | c :: rest =>
    match splitHoles rest with
    | piece :: pieces => (c :: piece) :: pieces
    | [] => [[c]]

/-- The pieces with a text between them. -/
def fillHoles (filling : List Char) : List (List Char) → List Char
  | [] => []
  | [piece] => piece
  | piece :: pieces => piece ++ filling ++ fillHoles filling pieces

/-- The text of a template for a filling. -/
def render (template filling : String) : String :=
  String.ofList (fillHoles filling.toList (splitHoles template.toList))

/-- Builds a step that shows payloads in a template. -/
def stringTemplate : ProcessorConstructor := fun params => do
  let template ← ProcessError.ofParam (params.getString "template")
  return .quiet "string.template" fun p => .passed (.text (render template p.display))

end Switchboard.Processor
