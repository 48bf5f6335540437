import ApiBindings.Bindings.Module
/-!
# From page to modules

The whole way from the text of a reference page to the text of the generated modules.
-/

namespace ApiBindings

/-- The modules for a page. -/
def generate (s : Settings) (text : String) : Except Error Sources := do
  let scan ← Reference.scan s.options text
  Sources.write s (Definition.ofPage s.unions scan.sections)

/-- The records about a page, up to the error if it has one. -/
def generateReport (s : Settings) (text : String) : List Log.Record :=
  Log.Part.run.record Log.info "Starting pipeline" ::
    match Reference.scan s.options text with
    | .error _ => Reference.Scan.start.reportLines s.options (Reference.pageLines text)
    | .ok scan =>
      let ds := Definition.ofPage s.unions scan.sections
      scan.report s.options text
        ++ Definition.reportPage s.unions scan.sections
        ++ Sources.report s ds
        ++ match Sources.write s ds with
          | .error _ => []
          | .ok sources =>
            [Log.Part.run.record Log.info
              ("Complete: " ++ toString sources.count ++ " definitions")]

end ApiBindings
