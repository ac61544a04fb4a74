/-! The ways in which evaluation and rendering fail. -/

namespace TextTemplate

inductive EvalError where
  | invalidField (field : String)
  | typeMismatch (expected got : String)
  | indexOutOfBounds (index size : Nat)
  | undefinedFunction (name : String)
  | undefinedMethod (method typeName : String)
  | wrongArgCount (name : String) (min max got : Nat)
  | scopeDepthExceeded (limit : Nat)
  | custom (message : String)
  deriving DecidableEq, Inhabited

namespace EvalError

def message : EvalError → String
  | invalidField field => "invalid field access: " ++ field
  | typeMismatch expected got => "type mismatch: expected " ++ expected ++ ", got " ++ got
  | indexOutOfBounds index size =>
    "index " ++ index.repr ++ " out of bounds (size " ++ size.repr ++ ")"
  | undefinedFunction name => "undefined function: " ++ name
  | undefinedMethod method typeName => "no method '" ++ method ++ "' on type " ++ typeName
  | wrongArgCount name min max got =>
    if min = max then
      let noun := if min = 1 then "argument" else "arguments"
      name ++ " expects " ++ min.repr ++ " " ++ noun ++ ", got " ++ got.repr
    else
      name ++ " expects " ++ min.repr ++ " to " ++ max.repr ++ " arguments, got " ++ got.repr
  | scopeDepthExceeded limit => "maximum scope depth exceeded (limit: " ++ limit.repr ++ ")"
  | custom message => message

def isInvalidField : EvalError → Bool
  | invalidField _ => true
  | _ => false

end EvalError
end TextTemplate
