import GraphWalk.Value.Basic

/-!
# Issues

What can be wrong with an expression or a block of a module file, and the line it
is found on. Reading goes on behind an issue where it can; the first issue is the
one that is shown.
-/

namespace GraphWalk

inductive Complaint where
  | variablesNotAllowed
  | unknownVariable
  | callsNotAllowed
  | unknownFunction
  | missingArguments
  | extraArguments
  | invalidArgument
  | failedCall
  | invalidSpread
  | invalidOperand
  | failedOperation
  | notAText
  | nullCondition
  | conditionType
  | branchTypes
  | nullKey
  | keyType
  | ambiguousKey
  | nullIteration
  | notIterable
  | loopConditionNull
  | loopCondition
  | loopKey
  | duplicateKey
  | nullSplat
  | mixedSplat
  | attributeOfNull
  | missingAttribute
  | missingElement
  | indexOfNull
  | invalidIndex
  | unsuitableValue
  | unsupportedArgument
  | unsupportedBlock
  | missingArgument
  | missingLabel (name type : String)
  | extraLabel (type : String)
deriving Repr, DecidableEq

def Complaint.summary : Complaint → String
  | .variablesNotAllowed => "Variables not allowed"
  | .unknownVariable => "Unknown variable"
  | .callsNotAllowed => "Function calls not allowed"
  | .unknownFunction => "Call to unknown function"
  | .missingArguments => "Not enough function arguments"
  | .extraArguments => "Too many function arguments"
  | .invalidArgument => "Invalid function argument"
  | .failedCall => "Error in function call"
  | .invalidSpread => "Invalid expanding argument value"
  | .invalidOperand => "Invalid operand"
  | .failedOperation => "Operation failed"
  | .notAText => "Invalid template interpolation value"
  | .nullCondition => "Null condition"
  | .conditionType => "Incorrect condition type"
  | .branchTypes => "Inconsistent conditional result types"
  | .nullKey => "Null value as key"
  | .keyType => "Incorrect key type"
  | .ambiguousKey => "Ambiguous attribute key"
  | .nullIteration => "Iteration over null value"
  | .notIterable => "Iteration over non-iterable value"
  | .loopConditionNull => "Condition is null"
  | .loopCondition => "Invalid 'for' condition"
  | .loopKey => "Invalid object key"
  | .duplicateKey => "Duplicate object key"
  | .nullSplat => "Splat of null value"
  | .mixedSplat => "Invalid nested splat expressions"
  | .attributeOfNull => "Attempt to get attribute from null value"
  | .missingAttribute => "Unsupported attribute"
  | .missingElement => "Missing map element"
  | .indexOfNull => "Attempt to index null value"
  | .invalidIndex => "Invalid index"
  | .unsuitableValue => "Unsuitable value type"
  | .unsupportedArgument => "Unsupported argument"
  | .unsupportedBlock => "Unsupported block type"
  | .missingArgument => "Missing required argument"
  | .missingLabel name type => "Missing " ++ name ++ " for " ++ type
  | .extraLabel type => "Extraneous label for " ++ type

structure Issue where
  line : Nat
  complaint : Complaint
deriving Repr, DecidableEq

/-- An issue as it is shown. -/
def Issue.message (file : String) (i : Issue) : String :=
  file ++ ":" ++ toString i.line ++ ": " ++ i.complaint.summary

/-- A value, and the first issue on the way to it. With an issue the value says
what is still known of the result. -/
structure Outcome where
  value : Value
  issue : Option Issue := none
deriving Repr, Inhabited

namespace Outcome

def ok (v : Value) : Outcome := ⟨v, none⟩

/-- An outcome of which nothing is known but the issue. -/
def bad (line : Nat) (c : Complaint) : Outcome := ⟨.anything, some ⟨line, c⟩⟩

/-- Puts an earlier issue in front. -/
def after (earlier : Option Issue) (o : Outcome) : Outcome := ⟨o.value, earlier <|> o.issue⟩

end Outcome

end GraphWalk
