import ClarityCheck.Json.Printer

/-!
# Responses

What a caller learns of a validation: whether it succeeded, what the compiler said, and the errors
or diagnostics if there are any.
-/

namespace ClarityCheck.Validation

/-- The answer to a validation. -/
structure Response where
  success : Bool
  output : String
  errors : Option String
  deriving DecidableEq, Repr

namespace Response

/-- The response as a JSON value; `errors` is left out when there are none. -/
def toJson (r : Response) : Json :=
  .obj ([("success", .bool r.success), ("output", .str r.output)]
    ++ match r.errors with
      | some e => [("errors", .str e)]
      | none => [])

end Response

end ClarityCheck.Validation
