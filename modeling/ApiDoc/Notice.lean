import ApiDoc.Http.Method
import ApiDoc.Text.Quoted

/-!
# Notices

What the library reports about its work. Only a duplicate route is worth a warning; the rest is for
those who want to follow each step.
-/

namespace ApiDoc

/-- Something reported about the work. -/
inductive Notice where
  | skipped (path : String)
  | collected (count : Nat) (mount : String)
  | recorded (pointer : String)
  | assembled (method : Method) (path : String)
  | duplicate (method : Method) (path : String)
  | built (paths definitions : Nat)
  deriving DecidableEq, Repr

namespace Notice

def isWarning : Notice → Bool
  | duplicate .. => true
  | _ => false

/-- The part of the program that a notice comes from. -/
def source : Notice → String
  | skipped _ | collected .. => "router_docs.routes.collector"
  | recorded _ => "router_docs.schema.refs"
  | assembled .. => "router_docs.generator.paths"
  | duplicate .. | built .. => "router_docs.generator.document"

/-- The sentence of a notice. -/
def message : Notice → String
  | skipped path => "Skipping ignored route " ++ path
  | collected count mount => s!"Collected {count} routes with prefix " ++ Text.quoted mount
  | recorded pointer => "Recorded reference " ++ pointer
  | assembled method path => s!"Assembled {method.upperName} " ++ path
  | duplicate method path => s!"Duplicate route {method.upperName} {path}, keeping the last one"
  | built paths definitions => s!"Built document with {paths} paths and {definitions} definitions"

/-- The line of a notice in a log. -/
def line (n : Notice) : String :=
  (if n.isWarning then "WARNING " else "DEBUG ") ++ n.source ++ ": " ++ n.message

end Notice

end ApiDoc
