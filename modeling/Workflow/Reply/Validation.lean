import Workflow.Number.Reading
import Workflow.Pattern.Reader
import Workflow.Placeholder
import Workflow.Reply.Basic
import Workflow.Text.Case
import Workflow.Text.Search

/-!
# Validation of typed replies

A step may set a rule for what is typed: a pattern, a text it has to contain, a length, an address,
a telephone number or a number. No rule, or one of another kind, accepts everything. The rule is
read from a free-form configuration, so its parts may turn out not to be what the rule needs.
-/

namespace Workflow

namespace Value

/-- An integer read where a count is needed. A fraction is cut off. -/
def count : Value → Except Fault Int
  | .int n => .ok n
  | .bool b => .ok (if b then 1 else 0)
  | .float x =>
    match x, x.truncate? with
    | _, some n => .ok n
    | .nan, none => .error .undefinedCount
    | _, none => .error (.misuse .infiniteCount)
  | .text s =>
    match Number.integerDigits? s with
    | none => .error (.unreadableNumber s)
    | some (negative, ds) =>
      if Placeholder.digitLimit < ds.length then .error (.oversizeNumber (.read ds.length))
      else .ok (if negative then -(Number.ofDigits ds : Int) else Number.ofDigits ds)
  | v => .error (.misuse (.notCount v.kindName))

end Value

namespace Reply

/-- The text without a line end that ends it. -/
def dropFinalBreak (cs : List Char) : List Char :=
  if cs.getLast? = some '\n' then cs.dropLast else cs

/-- A character that may stand in either half of an address. -/
def isAddressChar (c : Char) : Bool := !Text.isBlank c && c != '@'

/-- A domain has a dot with something on both sides, and no blanks. -/
def isDomain (cs : List Char) : Bool :=
  cs.all isAddressChar && cs.tail.dropLast.contains '.'

/-- A name, an at sign and a domain. A line end after the address does no harm. -/
def isAddress (s : String) : Bool :=
  let cs := dropFinalBreak s.toList
  let domain := cs.dropWhile isAddressChar
  !(cs.takeWhile isAddressChar).isEmpty && domain.head? = some '@' && isDomain domain.tail

/-- A character of a telephone number. -/
def isTelephoneChar (c : Char) : Bool :=
  Text.isDecimal c || Text.isBlank c || c == '+' || c == '(' || c == ')' || c == '-'

/-- At least ten characters that may stand in a telephone number, and no others. -/
def isTelephone (s : String) : Bool := 10 ≤ s.length && s.toList.all isTelephoneChar

/-- The length lies between two bounds. A bound that counts as absent does not bind. -/
def fitsLength (content : String) (least greatest : Value) : Except Fault Bool := do
  let length : Int := content.length
  if least.truthy && length < (← bound least) then .ok false
  else if greatest.truthy && (← bound greatest) < length then .ok false
  else .ok true
where
  /-- The value of a bound that is there. -/
  bound (v : Value) : Except Fault Int := if v.truthy then v.count else .ok 0

/-- The content is accepted by a rule. -/
def fits (content : String) (rule : Value) : Except Fault Bool :=
  if !rule.truthy then .ok true
  else do
    let fields ← rule.fieldsOf
    let wanted := (Fields.read fields "value").orElse (.text "")
    match Fields.read fields "type" with
    | .text "regex" =>
      match Pattern.Query.ofText (← wanted.wording) with
      | .ok query => .ok (query.foundIn content)
      | .error (.oversizeNumber digits) => .error (.oversizeNumber (.read digits))
      | .error .tooDeep => .error .tooDeep
      | .error flaw => .error (.badPattern flaw)
    | .text "contains" =>
      .ok (Text.contains (Text.lower content) (Text.lower (← wanted.wording)))
    | .text "length" => fitsLength content (Fields.read fields "min") (Fields.read fields "max")
    | .text "email" => .ok (isAddress content)
    | .text "phone" => .ok (isTelephone content)
    | .text "number" => .ok (Number.real? (Text.trim content)).isSome
    | _ => .ok true

end Reply

namespace Step

/-- What is said about a reply when the step says nothing of its own. -/
def standardRefusal : String := "Invalid input"

/-- What is said about a reply the step does not accept. -/
def refusal (step : Step) : Except Fault Value := do
  let rule := step.setting "validation"
  let fields ← if rule.truthy then rule.fieldsOf else .ok []
  .ok ((Fields.read fields "error_message").orElse
    ((step.setting "error_message").orElse (.text standardRefusal)))

end Step

end Workflow
