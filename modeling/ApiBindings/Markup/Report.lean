import ApiBindings.Log.Record
import ApiBindings.Markup.Fragment
/-!
# What is logged about a fragment

Only a fragment that is no markup is worth a record.
-/

namespace ApiBindings.Markup

/-- What is said about a rejected fragment, before the reason. -/
def rejectionNotice : String :=
  "Parser rejected fragment, stripping tags by pattern: "
    ++ "The markup you provided was rejected by the parser. "
    ++ "Trying a different parser or a different encoding may help.\n\n"
    ++ "Original exception(s) from parser:\n AssertionError: "

/-- The records about reading one fragment. -/
def report (fragment : String) : List Log.Record :=
  match tree fragment with
  | .error (.rejected why) =>
    [Log.Part.markup.record Log.debug (rejectionNotice ++ why.message)]
  | .error (.longNumber _) | .ok _ => []

end ApiBindings.Markup
