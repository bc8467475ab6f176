import DefOut.Project.Grammar
import DefOut.Project.Misuse

set_option autoImplicit false

/-!
The structure of project files: a body holds arguments, each on a line of its own, and blocks,
which have a type, labels and a body again. A block with a single argument can stand on one
line.
-/
namespace DefOut.Project

structure Argument where
  name : Bytes
  nameRange : Range
  value : Expression

structure Block where
  type : Bytes
  typeRange : Range
  labels : List (Bytes × Range)
  brace : Range
  arguments : List Argument
  blocks : List Block

/-- The arguments of a body, each name once, and its blocks, both in the order of the file. -/
structure Body where
  arguments : List Argument := []
  blocks : List Block := []

def Block.body (b : Block) : Body :=
  ⟨b.arguments, b.blocks⟩

inductive BodyItem where
  | argument (a : Argument)
  | block (b : Block)

namespace Reading

/-- The rest of a quoted label after its opening quote; `text` is what there is so far. -/
def labelRest (opening : Token) : Nat → (text : Bytes) → Reading (Bytes × Range)
  | 0, text => return (text, opening.range)
  | n + 1, text => do
    let t ← read
    match t.kind with
    | .closeQuote => return (text, opening.range.between t.range)
    | .quotedText =>
      let (more, faults) := t.literalText
      reportAll faults
      labelRest opening n (text ++ more)
    | .interpolation | .directive =>
      let sign : Bytes := if t.kind = .directive then "%" else "$"
      report "Invalid string literal"
        ("Template sequences are not allowed in this string. To include a literal "
          ++ Text.quoted sign ++ ", double it (as " ++ Text.quoted (sign ++ sign)
          ++ ") to escape it.") t.range
      let _ ← recover .sequenceEnd
      labelRest opening n text
    | .endOfFile =>
      report "Unterminated string literal"
        "Unable to find the closing quote mark before the end of the file." t.range
      return (text, opening.range.between t.range)
    | _ =>
      report "Invalid string literal" "This item is not valid in a string literal." t.range
      let last ← recover .closeQuote
      return (text, opening.range.between last.range)

/-- The rest of an argument after its name. On a line of its own it has to end with the
line. -/
def argument (name : Token) (ownLine : Bool) : Reading Argument := do
  let _ ← read
  let (value, lost) ← checking expression
  if lost then recoverAfterItem
  else if ownLine then
    let next ← peek
    if next.kind = .newline ∨ next.kind = .endOfFile then
      let _ ← read
    else
      if next.kind = .comma then
        reportFirst "Unexpected comma after argument"
          "Argument definitions must be separated by newlines, not commas. An argument definition must end with a newline."
          next.range
      else
        reportFirst "Missing newline after argument"
          "An argument definition must end with a newline." next.range
      recoverAfterItem
  return ⟨name.text, name.range, value⟩

def lineArgument : Reading Body := do
  let name ← read
  if name.kind ≠ .identifier then
    recoverAfterItem
    report "Argument or block definition required"
      "An argument or block definition is required here." name.range
    return {}
  let next ← peek
  match next.kind with
  | .equal => return { arguments := [← argument name false] }
  | .openQuote | .openBrace | .identifier =>
    recoverAfterItem
    report "Argument definition required"
      ("A single-line block definition can contain only a single argument. If you meant to define argument "
        ++ Text.quoted name.text
        ++ ", use an equals sign to assign it a value. To define a nested block, place it on a line of its own within its parent block.")
      (name.range.between next.range)
    return {}
  | _ =>
    recoverAfterItem
    report "Argument or block definition required"
      "An argument or block definition is required here. To set an argument, use the equals sign \"=\" to introduce the argument value."
      name.range
    return {}

def reportUnclosedBlock (place : Range) : Reading Unit :=
  reportFirst "Unclosed configuration block"
    "There is no closing brace for this block before the end of the file. This may be caused by incorrect brace nesting elsewhere in this file."
    place

def lineEnd (brace : Range) : Reading Unit := do
  let summary : Bytes := "Invalid single-argument block definition"
  let next ← peek
  match next.kind with
  | .closeBrace =>
    let _ ← read
    return
  | .comma =>
    report summary
      "Single-line block syntax can include only one argument definition. To define multiple arguments, use the multi-line block syntax with one argument definition per line."
      next.range
  | .newline =>
    report summary
      "An argument definition on the same line as its containing block creates a single-line block definition, which must also be closed on the same line. Place the block's closing brace immediately after the argument definition."
      next.range
  | .endOfFile => reportUnclosedBlock brace
  | _ =>
    reportFirst summary
      "A single-line block definition must end with a closing brace immediately after its single argument definition."
      next.range
  let _ ← recover .closeBrace

/-- The body of a block on one line. A fault of its end is reported before those of its
argument. -/
def lineBody (brace : Range) : Reading Body := do
  let (body, faults) ← collecting lineArgument
  lineEnd brace
  reportAll faults
  return body

def labels : Nat → List (Bytes × Range) → Reading (Option (List (Bytes × Range) × Token))
  | 0, _ => return none
  | n + 1, found => do
    let next ← peek
    match next.kind with
    | .openBrace => return some (found.reverse, ← read)
    | .openQuote =>
      let opening ← read
      let label ← labelRest opening (← rounds) []
      labels n (label :: found)
    | .identifier =>
      let _ ← read
      labels n ((next.text, next.range) :: found)
    | kind =>
      let summary : Bytes := "Invalid block definition"
      if kind = .equal then
        report summary
          "The equals sign \"=\" indicates an argument definition, and must not be used when defining a block."
          next.range
      else if kind = .newline then
        report summary
          "A block definition must have block content delimited by \"\x7b\" and \"\x7d\", starting on the same line as the block header."
          next.range
      else
        reportFirst summary
          "Either a quoted string block label or an opening brace (\"\x7b\") is expected here."
          next.range
      recoverAfterItem
      return none

/-- The rest of a block after its type. `inner` reads the body of a block. -/
def block (inner : Reading Body) (type : Token) : Reading Block := do
  match ← labels (← rounds) [] with
  | none => return ⟨type.text, type.range, [], type.range, [], []⟩
  | some (labels, brace) =>
    let next ← peekKind
    let body ←
      if next = .newline ∨ next = .endOfFile ∨ next = .closeBrace then inner
      else lineBody brace.range
    let next ← peek
    if next.kind = .newline ∨ next.kind = .endOfFile then
      let _ ← read
    else
      reportFirst "Missing newline after block definition"
        "A block definition must end with a newline." next.range
      recoverAfterItem
    return ⟨type.text, type.range, labels, brace.range, body.arguments, body.blocks⟩

def bodyItem (inner : Reading Body) : Reading (Option BodyItem) := do
  let name ← read
  match ← peekKind with
  | .equal => return some (.argument (← argument name true))
  | .openQuote | .openBrace | .identifier => return some (.block (← block inner name))
  | _ =>
    recoverAfterItem
    report "Argument or block definition required"
      "An argument or block definition is required here. To set an argument, use the equals sign \"=\" to introduce the argument value."
      name.range
    return none

/-- The items of a body up to what closes it. `start` is where the body starts, and `found` has
the items so far, last first. -/
def bodyItems (inner : Reading Body) (close : TokenKind) (start : Range) :
    Nat → (found : Body) → Reading Body
  | 0, found => return ⟨found.arguments.reverse, found.blocks.reverse⟩
  | n + 1, found => do
    let done : Body := ⟨found.arguments.reverse, found.blocks.reverse⟩
    let next ← peek
    if next.kind = close then
      let _ ← read
      return done
    match next.kind with
    | .newline =>
      let _ ← read
      bodyItems inner close start n found
    | .identifier =>
      match ← bodyItem inner with
      | some (.block b) =>
        bodyItems inner close start n { found with blocks := b :: found.blocks }
      | some (.argument a) =>
        match found.arguments.find? fun other => other.name == a.name with
        | some other =>
          report "Attribute redefined"
            ("The argument " ++ Text.quoted a.name ++ " was already set at "
              ++ other.nameRange.render ++ ". Each argument may be set only once.") a.nameRange
          bodyItems inner close start n found
        | none => bodyItems inner close start n { found with arguments := a :: found.arguments }
      | none => bodyItems inner close start n found
    | _ =>
      let bad ← read
      if bad.kind = .openQuote then
        reportFirst "Invalid argument name" "Argument names must not be quoted." bad.range
      else if bad.kind = .endOfFile then reportUnclosedBlock start
      else
        reportFirst "Argument or block definition required"
          "An argument or block definition is required here." bad.range
      let _ ← recover close
      return done

def bodyWithin : Nat → (close : TokenKind) → Reading Body
  | 0, _ => return {}
  | depth + 1, close => do
    bodyItems (bodyWithin depth .closeBrace) close (← lastRange) (← rounds) {}

end Reading

/-- The body of a project file, and what is wrong with the file: first with single tokens, then
with their order. -/
def readBody (file content : Bytes) : Body × List Diagnostic :=
  let tokens := scan file content
  let finish : Token := tokens.getLast?.getD ⟨.endOfFile, [], ⟨file, .start, .start⟩⟩
  let (body, reader) :=
    (Reading.bodyWithin (tokens.length + 1) .endOfFile).run { rest := tokens, finish }
  (body, misuses tokens ++ reader.faults.reverse)

end DefOut.Project
