import DefOut.Project.Literal
import DefOut.Project.Reader
import DefOut.Project.Suggestion
import DefOut.Project.Template

set_option autoImplicit false

/-!
Reading expressions. Operators bind in levels, and every operator of a level is taken from the
left; a conditional is weaker than all operators, and signs, indexes and attributes are
stronger. The reader of a construct takes the reader of the expressions inside it as an
argument, and `expression` ties them together down to a bounded depth.
-/
namespace DefOut.Project

namespace Reading

def missingBetween (a b : Range) : Reading Expression :=
  return .missing (a.between b)

def numberValue (t : Token) : Reading Value := do
  match Number.read? t.text with
  | some n => return .number n
  | none =>
    report "Invalid number literal" "Failed to recognize the value of this number literal." t.range
    return .ofKind .number

/-! ### Texts -/

/-- Take the end of an interpolation or directive. Returns whether the text after it loses the
white space at its start. -/
def sequenceEnd (complain : Token → Reading Unit) : Reading (Bool × Range) := do
  let close ← peek
  if close.kind = .sequenceEnd then
    let _ ← read
    return (close.text.length == 2, close.range)
  else
    unless ← recovering do complain close
    let _ ← recover .sequenceEnd
    return (false, close.range)

/-- An interpolation after its start. `start` is where the text starts and `close` what ends
it. -/
def interpolation (self : Reading Expression) (start : Range) (close : TokenKind) :
    Reading (Part × Bool) :=
  withLineEnds false do
    let e ← self
    let (trims, _) ← sequenceEnd fun t => do
      if t.kind = .endOfFile then
        report "Unclosed template interpolation sequence"
          "There is no closing brace for this interpolation sequence before the end of the file. This might be caused by incorrect nesting inside the given expression."
          start
      else if t.kind = .colon then
        report "Extra characters after interpolation expression"
          "Template interpolation doesn't expect a colon at this location. Did you intend this to be a literal sequence to be processed as part of another language? If so, you can escape it by starting with \"$$\x7b\" instead of just \"$\x7b\"."
          t.range
      else if (t.kind = .closeQuote || t.kind = .openQuote) && close = .closeQuote then
        report "Unclosed template interpolation sequence"
          "There is no closing brace for this interpolation sequence before the end of the quoted template. This might be caused by incorrect nesting inside the given expression."
          start
      else
        report "Extra characters after interpolation expression"
          "Expected a closing brace to end the interpolation expression, but found extra characters.\n\nThis can happen when you include interpolation syntax for another language, such as shell scripting, but forget to escape the interpolation start token. If this is an embedded sequence for another language, escape it by starting with \"$$\x7b\" instead of just \"$\x7b\"."
          t.range
    return (.interpolation e, trims)

def loopNames (noName noValue noIn : Bytes) (summary : Bytes) : Reading (Option LoopNames) := do
  if (← peekKind) ≠ .identifier then
    reportFirst summary noName (← peek).range
    return none
  let first := (← read).text
  let names : Option LoopNames ←
    if (← peekKind) = .comma then do
      let _ ← read
      if (← peekKind) ≠ .identifier then
        reportFirst summary noValue (← peek).range
        pure none
      else
        let second := (← read).text
        pure (some ⟨some first, second⟩)
    else pure (some ⟨none, first⟩)
  match names with
  | none => return none
  | some names =>
    if ← atWord "in" then
      let _ ← read
      return some names
    else
      reportFirst summary noIn (← peek).range
      return none

/-- What a directive word introduces; `none` after a fault. `start` is where the directive
starts. -/
def directivePart (self : Reading Expression) (start : Token) (word : Token) :
    Reading (Option Part) := do
  let upTo : Reading Range := do return start.range.between (← peek).range
  let w := word.text
  if w = "if" then
    let condition ← self
    return some (.ifStart condition (← upTo))
  else if w = "else" then return some (.closer .otherwise (← upTo))
  else if w = "endif" then return some (.closer .endIf (← upTo))
  else if w = "endfor" then return some (.closer .endFor (← upTo))
  else if w = "for" then
    let names ← loopNames "For directive requires variable name after 'for'."
      "For directive requires value variable name after comma."
      "For directive requires 'in' keyword after names." "Invalid 'for' directive"
    match names with
    | none => return none
    | some names =>
      let collection ← self
      return some (.forStart names collection (← upTo))
  else
    let words : List Bytes := ["if", "for", "else", "endif", "endfor"]
    reportFirst "Invalid template control keyword"
      (Text.quoted w ++ " is not a valid template control keyword." ++ didYouMean w words)
      word.range
    return none

def directive (self : Reading Expression) (start : Token) : Reading (Option Part × Bool) :=
  withLineEnds false do
    let word ← peek
    if word.kind ≠ .identifier then
      reportFirst "Invalid template directive"
        "A template directive keyword (\"if\", \"for\", etc) is expected at the beginning of a %\x7b sequence."
        word.range
      let _ ← recover .sequenceEnd
      return (none, false)
    let _ ← read
    match ← directivePart self start word with
    | none =>
      let _ ← recover .sequenceEnd
      return (none, false)
    | some part =>
      let (trims, _) ← sequenceEnd fun t =>
        report ("Extra characters in " ++ word.text ++ " marker")
          "Expected a closing brace to end the sequence, but found extra characters." t.range
      return (some part, trims)

/-- The parts without the white space at the end of the last one, if that is a literal. `parts`
has the last part first. -/
def trimLast : List Part → List Part
  | .literal text r :: rest => .literal (Text.trimEnd text) r :: rest
  | parts => parts

structure TrimState where
  /-- The next literal loses the white space at its start. -/
  trimNext : Bool := false
  afterLiteral : Bool := false

/-- The parts of a text up to what closes it, and the range of that. `parts` are those so far,
last first. -/
def textParts (self : Reading Expression) (start : Range) (close : TokenKind) :
    Nat → TrimState → List Part → Reading (List Part × Range)
  | 0, _, parts => return (parts.reverse, start)
  | n + 1, state, parts => do
    let t ← read
    if t.kind = close then return (parts.reverse, t.range)
    let trimmed := if state.afterLiteral && t.text.length == 3 then trimLast parts else parts
    match t.kind with
    | .quotedText | .plainText =>
      let (text, faults) := t.literalText
      reportAll faults
      let text := if state.trimNext then Text.trimStart text else text
      textParts self start close n { afterLiteral := true } (.literal text t.range :: parts)
    | .interpolation =>
      let (part, trimNext) ← interpolation self start close
      textParts self start close n { trimNext } (part :: trimmed)
    | .directive =>
      let (part, trimNext) ← directive self t
      textParts self start close n { trimNext } (part.toList ++ trimmed)
    | _ =>
      reportFirst "Unterminated template string" "No closing marker was found for the string."
        t.range
      let last ← recover close
      return (parts.reverse, last.range)

def text (self : Reading Expression) (opening : Token) : Reading Expression := do
  let close := opening.kind.opposite?.getD .closeQuote
  let start := (← peek).range
  let (parts, finish) ← textParts self start close (← rounds) {} []
  let parts := if parts.isEmpty then [.literal [] start.atStart] else parts
  let flush := opening.kind = .openHeredoc && opening.text.startsWith "<<-"
  let parts := Part.meld (if flush then Part.dedent parts else parts)
  let (expressions, faults) := assemble parts finish
  reportAll faults
  let range := opening.range.between (← lastRange)
  match parts, expressions with
  | [.interpolation e], _ => return .wrapped e range
  | _, expressions => return .template expressions range

/-! ### Loops -/

/-- A loop after the word that introduces it. `opening` is the bracket it stands in. -/
def loop (self : Reading Expression) (opening : Token) : Reading Expression :=
  withLineEnds false do
    let _ ← read
    let makesObject := opening.kind = .openBrace
    let close := if makesObject then TokenKind.closeBrace else .closeBracket
    let giveUp : Reading Expression := do
      let last ← recover close
      missingBetween opening.range last.range
    let summary : Bytes := "Invalid 'for' expression"
    let names ← loopNames "For expression requires variable name after 'for'."
      "For expression requires value variable name after comma."
      "For expression requires the 'in' keyword after its name declarations." summary
    match names with
    | none => giveUp
    | some names =>
      let (collection, lost) ← checking self
      if lost then return ← giveUp
      if (← peekKind) ≠ .colon then
        reportFirst summary "For expression requires a colon after the collection expression."
          (← peek).range
        return ← giveUp
      let _ ← read
      let (first, firstFaulty) ← watching self
      let hasKey := (← peekKind) = .fatArrow
      let (value, valueFaulty) ←
        if hasKey then do
          let _ ← read
          watching self
        else pure (first, false)
      if (firstFaulty || valueFaulty) && (← recovering) then return ← giveUp
      let ellipsis ← peek
      let grouped := ellipsis.kind = .ellipsis
      if grouped then
        let _ ← read
      let mut condition : Option Expression := none
      if ← atWord "if" then
        let _ ← read
        let (c, lost) ← checking self
        if lost then return ← giveUp
        condition := some c
      let last ←
        if (← peekKind) = close then read
        else do
          reportFirst summary "Extra characters after the end of the 'for' expression."
            (← peek).range
          recover close
      let range := opening.range.between last.range
      if makesObject then
        if hasKey then
          return .objectFor names collection first value condition grouped range
        report summary "Key expression is required when building an object." value.range
        return .missing range
      if hasKey then
        report summary "Key expression is not valid when building a tuple." first.range
      if grouped then
        report summary "Grouping ellipsis (...) cannot be used when building a tuple."
          ellipsis.range
      return .tupleFor names collection value condition range

/-! ### Brackets -/

def tupleItems (self : Reading Expression) (opening : Token) :
    Nat → List Expression → Reading (List Expression × Token)
  | 0, items => return (items.reverse, opening)
  | n + 1, items => do
    if (← peekKind) = .closeBracket then return (items.reverse, ← read)
    let (e, lost) ← checking self
    let items := e :: items
    if lost then return (items.reverse, ← recover .closeBracket)
    let next ← peek
    if next.kind = .closeBracket then return (items.reverse, ← read)
    if next.kind ≠ .comma then
      if next.kind = .endOfFile then
        reportFirst "Unterminated tuple constructor expression"
          "There is no corresponding closing bracket before the end of the file. This may be caused by incorrect bracket nesting elsewhere in this file."
          opening.range
      else
        reportFirst "Missing item separator"
          "Expected a comma to mark the beginning of the next item." next.range
      return (items.reverse, ← recover .closeBracket)
    let _ ← read
    tupleItems self opening n items

def tuple (self : Reading Expression) : Reading Expression := do
  let opening ← read
  withLineEnds false do
    if ← atWord "for" then return ← loop self opening
    let (items, close) ← tupleItems self opening (← rounds) []
    return .tuple items (opening.range.between close.range)

def reportUnclosedObject (opening : Token) : Reading Unit :=
  reportFirst "Unterminated object constructor expression"
    "There is no corresponding closing brace before the end of the file. This may be caused by incorrect brace nesting elsewhere in this file."
    opening.range

def reportSeparator (opening next : Token) : Reading Unit :=
  match next.kind with
  | .endOfFile => reportUnclosedObject opening
  | .newline | .comma =>
    reportFirst "Missing attribute value"
      "Expected an attribute value, introduced by an equals sign (\"=\")." next.range
  | .identifier =>
    reportFirst "Missing key/value separator"
      "Expected an equals sign (\"=\") to mark the beginning of the attribute value. If you intended to given an attribute name containing periods or spaces, write the name in quotes to create a string literal."
      next.range
  | _ =>
    reportFirst "Missing key/value separator"
      "Expected an equals sign (\"=\") to mark the beginning of the attribute value." next.range

def objectItems (self : Reading Expression) (opening : Token) :
    Nat → List ObjectItem → Reading (List ObjectItem × Token)
  | 0, items => return (items.reverse, opening)
  | n + 1, items => do
    let next ← peek
    if next.kind = .newline then
      let _ ← read
      return ← objectItems self opening n items
    if next.kind = .closeBrace then return (items.reverse, ← read)
    let computed := next.kind = .openParen
    let (key, lost) ← checking self
    if lost then return (items.reverse, ← recover .closeBrace)
    let next ← peek
    if next.kind ≠ .equal ∧ next.kind ≠ .colon then
      reportSeparator opening next
      return (items.reverse, ← recover .closeBrace)
    let _ ← read
    let (value, lost) ← checking self
    if lost then return (items.reverse, ← recover .closeBrace)
    let items := ObjectItem.mk computed key value :: items
    let next ← peek
    if next.kind = .closeBrace then return (items.reverse, ← read)
    if next.kind ≠ .comma ∧ next.kind ≠ .newline then
      if next.kind = .endOfFile then reportUnclosedObject opening
      else
        reportFirst "Missing attribute separator"
          "Expected a newline or comma to mark the beginning of the next attribute." next.range
      return (items.reverse, ← recover .closeBrace)
    let _ ← read
    objectItems self opening n items

def object (self : Reading Expression) : Reading Expression := do
  let opening ← read
  if ← withLineEnds false (atWord "for") then return ← loop self opening
  withLineEnds true do
    let (items, close) ← objectItems self opening (← rounds) []
    return .object items (opening.range.between close.range)

def parentheses (self : Reading Expression) : Reading Expression := do
  let opening ← read
  withLineEnds false do
    let (e, faulty) ← watching self
    if faulty then
      let _ ← recover .closeParen
      return e
    let close ← peek
    if close.kind ≠ .closeParen then
      report "Unbalanced parentheses"
        "Expected a closing parenthesis to terminate the expression." close.range
      startRecovery
    let close ← read
    return .parenthesized e (opening.range.between close.range)

/-! ### Calls -/

def callArguments (self : Reading Expression) (name opening : Token) :
    Nat → List Expression → Reading (List Expression × Token)
  | 0, arguments => return (arguments.reverse, opening)
  | n + 1, arguments => do
    if (← peekKind) = .closeParen then return (arguments.reverse, ← read)
    let (e, lost) ← checking self
    let arguments := e :: arguments
    if lost then return (arguments.reverse, ← recover .closeParen)
    let separator ← read
    match separator.kind with
    | .closeParen => return (arguments.reverse, separator)
    | .ellipsis =>
      if (← peekKind) = .closeParen then return (arguments.reverse, ← read)
      reportFirst "Missing closing parenthesis"
        "An expanded function argument (with ...) must be immediately followed by closing parentheses."
        separator.range
      return (arguments.reverse, ← recover .closeParen)
    | .comma => callArguments self name opening n arguments
    | .endOfFile =>
      report "Unterminated function call"
        "There is no closing parenthesis for this function call before the end of the file. This may be caused by incorrect parenthesis nesting elsewhere in this file."
        (name.range.between opening.range)
      return (arguments.reverse, ← recover .closeParen)
    | _ =>
      report "Missing argument separator"
        "A comma is required to separate each function argument from the next." separator.range
      return (arguments.reverse, ← recover .closeParen)

/-- The rest of a call after the first part of its name. `opening` is the token last read, and
`fullName` the name so far. -/
def callRest (self : Reading Expression) (name : Token) :
    Nat → (fullName : Bytes) → (opening : Token) → Reading Expression
  | 0, _, opening => missingBetween name.range opening.range
  | n + 1, fullName, opening => do
    if opening.kind = .doubleColon then
      let next ← read
      if next.kind ≠ .identifier then
        report "Missing function name"
          "Function scope resolution symbol :: must be followed by a function name in this scope."
          next.range
        recoverOver .openParen
        return ← missingBetween name.range next.range
      let opening ← read
      callRest self name n (fullName ++ "::" ++ next.text) opening
    else if opening.kind ≠ .openParen then
      report "Missing open parenthesis"
        "Function selector must be followed by an open parenthesis to begin the function call."
        opening.range
      recoverOver .openParen
      missingBetween name.range opening.range
    else
      withLineEnds false do
        let (arguments, close) ← callArguments self name opening (← rounds) []
        return .call fullName arguments (name.range.between close.range)

/-! ### Terms and steps -/

def named (self : Reading Expression) : Reading Expression := do
  let t ← read
  let next ← peekKind
  if next = .openParen ∨ next = .doubleColon then
    let opening ← read
    callRest self t (← rounds) t.text opening
  else if t.text = "true" then return .literal (.bool true) t.range
  else if t.text = "false" then return .literal (.bool false) t.range
  else if t.text = "null" then return .literal (.null .any) t.range
  else return .reference t.text t.range [] t.range

/-- A number after a dot: a step to the element with that index. Two indexes with a dot between
them read as one number, which is refused with a hint. -/
def legacyIndex (dot number : Token) (hint : Bytes → Bytes → Bytes) (place : Range) :
    Reading Step := do
  let range := dot.range.between number.range
  if number.text.contains Ascii.dot then
    let first := number.text.takeWhile (· ≠ Ascii.dot)
    let second := number.text.drop (first.length + 1)
    report "Invalid legacy index syntax" (hint first second) place
    return .index .nothing range
  return .index (← numberValue number) range

/-- The steps of an attribute-only splat, the range of the last one, and whether they could be
read. `star` is the token after which the splat starts. -/
def splatSteps (star : Token) : Nat → List Step → Range → Reading (Option (List Step × Range))
  | 0, steps, last => return some (steps.reverse, last)
  | n + 1, steps, last => do
    if (← peekKind) ≠ .dot then return some (steps.reverse, last)
    let dot ← read
    let next ← peek
    match next.kind with
    | .number =>
      let number ← read
      let step ← legacyIndex dot number
        (fun a b => "When using the legacy index syntax, chaining two indexes together is not permitted. Use the proper index syntax with a full splat expression [*] instead, like ["
          ++ a ++ "][" ++ b ++ "].")
        star.range
      splatSteps star n (step :: steps) number.range
    | .identifier =>
      let name ← read
      splatSteps star n (.member name.text (dot.range.between name.range) :: steps) name.range
    | .star =>
      reportFirst "Nested splat expression not allowed"
        "A splat expression (*) cannot be used inside another attribute-only splat expression."
        next.range
      startRecovery
      return none
    | _ =>
      reportFirst "Invalid attribute name" "An attribute name is required after a dot." star.range
      startRecovery
      return none

def afterDot (e : Expression) : Reading Expression := do
  let dot ← read
  let next ← peek
  match next.kind with
  | .identifier =>
    let _ ← read
    let range := dot.range.between next.range
    return e.extend (.member next.text range) range
  | .number =>
    let _ ← read
    let step ← legacyIndex dot next
      (fun a b => "When using the legacy index syntax, chaining two indexes together is not permitted. Use the proper index syntax instead, like ["
        ++ a ++ "][" ++ b ++ "].")
      next.range
    return e.extend step (dot.range.between next.range)
  | .star =>
    let _ ← read
    let first := (← peek).range
    match ← splatSteps next (← rounds) [] next.range with
    | none => return e
    | some (steps, last) =>
      let item : Expression := .item (dot.range.between next.range)
      let each := if steps.isEmpty then item else .path item steps (first.between last)
      return .splat e each (e.range.between last)
  | _ =>
    report "Invalid attribute name" "An attribute name is required after a dot." next.range
    startRecovery
    return e

def bracketIndex (self : Reading Expression) (e : Expression) (opening : Token) :
    Reading Expression := do
  let (key, close) ← withLineEnds false do
    let (key, lost) ← checking self
    if lost then return (key, ← recover .closeBracket)
    let close ← read
    if close.kind ≠ .closeBracket && !(← recovering) then
      report "Missing close bracket on index"
        "The index operator must end with a closing bracket (\"]\")." close.range
      return (key, ← recover .closeBracket)
    return (key, close)
  let bracket := opening.range.between close.range
  match key.constantKey? with
  | some v => return e.extend (.index v bracket) bracket
  | none => return .index e key bracket (e.range.between bracket)

def steps (self : Reading Expression) : Nat → Expression → Reading Expression
  | 0, e => return e
  | n + 1, e => do
    match ← peekKind with
    | .dot => steps self n (← afterDot e)
    | .openBracket =>
      let opening ← read
      if (← peekKind) = .star then
        let _ ← read
        let mut close ← read
        if close.kind ≠ .closeBracket && !(← recovering) then
          report "Missing close bracket on splat index"
            "The star for a full splat operator must be immediately followed by a closing bracket (\"]\")."
            close.range
          close ← recover .closeBracket
        let each ← steps self n (.item (opening.range.between close.range))
        steps self n (.splat e each (e.range.between each.range))
      else steps self n (← bracketIndex self e opening)
    | _ => return e

/-- A term with its signs and steps; the argument bounds the number of signs. -/
def operand (self : Reading Expression) : Nat → Reading Expression
  | 0 => return .missing (← peek).range
  | n + 1 => do
    let start ← peek
    let signed (operator : UnaryOperator) : Reading Expression := do
      let sign ← read
      let e ← operand self n
      return .unary operator e (sign.range.between e.range)
    let term : Expression ←
      match start.kind with
      | .openParen => parentheses self
      | .number => do
        let t ← read
        return .literal (← numberValue t) t.range
      | .identifier => named self
      | .openQuote | .openHeredoc => do text self (← read)
      | .minus => signed .negate
      | .bang => signed .not
      | .openBracket => tuple self
      | .openBrace => object self
      | _ => do
        if start.kind = .endOfFile then
          reportFirst "Missing expression"
            "Expected the start of an expression, but found the end of the file." start.range
        else
          reportFirst "Invalid expression"
            "Expected the start of an expression, but found an invalid expression token."
            start.range
        startRecovery
        return .missing start.range
    steps self (← rounds) term

/-! ### Operators -/

/-- The operators of each level, weakest first. -/
def operatorLevels : List (List (TokenKind × BinaryOperator)) := [
  [(.either, .or)],
  [(.both, .and)],
  [(.sameAs, .equal), (.notSame, .notEqual)],
  [(.greater, .greater), (.greaterEqual, .greaterEqual), (.less, .less),
    (.lessEqual, .lessEqual)],
  [(.plus, .add), (.minus, .subtract)],
  [(.star, .multiply), (.slash, .divide), (.percent, .modulo)]]

def operations (level : List (TokenKind × BinaryOperator)) (inner : Reading Expression) :
    Nat → Expression → Reading Expression
  | 0, left => return left
  | n + 1, left => do
    let next ← peek
    match level.find? fun o => o.1 = next.kind with
    | none => return left
    | some (_, operator) =>
      let _ ← read
      let (right, lost) ← checking inner
      if lost then return left
      operations level inner n (.binary operator left right (left.range.between right.range))

def binary (self : Reading Expression) :
    List (List (TokenKind × BinaryOperator)) → Reading Expression
  | [] => do operand self (← rounds)
  | level :: levels => do
    let inner := binary self levels
    let (left, lost) ← checking inner
    if lost then return left
    operations level inner (← rounds) left

def conditional (self : Reading Expression) : Reading Expression := do
  let start := (← peek).range
  let (condition, lost) ← checking (binary self operatorLevels)
  if lost then return condition
  if (← peekKind) ≠ .question then return condition
  let _ ← read
  let (yes, lost) ← checking self
  if lost then return condition
  let colon ← peek
  if colon.kind ≠ .colon then
    report "Missing false expression in conditional"
      "The conditional operator (...?...:...) requires a false expression, delimited by a colon."
      colon.range
    return condition
  let _ ← read
  let (no, lost) ← checking self
  if lost then return condition
  return .conditional condition yes no (start.between no.range)

def expressionWithin : Nat → Reading Expression
  | 0 => return .missing (← peek).range
  | depth + 1 => conditional (expressionWithin depth)

/-- An expression. An expression inside another one starts at a later token, so the number of
tokens bounds the depth. -/
def expression : Reading Expression := do
  expressionWithin ((← get).rest.length + 1)

end Reading
end DefOut.Project
