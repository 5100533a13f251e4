import QueryWarden.Input.Coercion
import QueryWarden.Query.Spec

/-!
# Typed query specifications

`QuerySpec.ofFields` builds a specification from named parts: an aggregation where there is a
pipeline, and a find otherwise.  The issues with all parts are listed in their order.
-/

namespace QueryWarden.QuerySpec

open Input

def unnamedLimit : Positive := .ofInt defaultLimit

def aggregateOfFields (fs : Fields) : Except (List Issue) QuerySpec :=
  let stages : Checked (List Fields) :=
    match fs.get? "pipeline" with
    | some v => listAt ["pipeline"] mapping v
    | none => .ok []
  let limit := field [] fs "limit" unnamedLimit positive
  let spec : Except (List Issue) QuerySpec := do
    .ok (.aggregate ⟨← stages, ← limit⟩)
  spec.mapError fun _ => issuesOf stages ++ issuesOf limit

def findOfFields (fs : Fields) : Except (List Issue) QuerySpec :=
  let filter := field [] fs "filter" [] mapping
  let projection := field [] fs "projection" none (optional mapping)
  let sort := field [] fs "sort" none (optional mapping)
  let limit := field [] fs "limit" unnamedLimit positive
  let spec : Except (List Issue) QuerySpec := do
    .ok (.find ⟨← filter, ← projection, ← sort, ← limit⟩)
  spec.mapError fun _ =>
    issuesOf filter ++ issuesOf projection ++ issuesOf sort ++ issuesOf limit

def ofFields (fs : Fields) : Except (List Issue) QuerySpec :=
  if fs.has "pipeline" then aggregateOfFields fs else findOfFields fs

end QueryWarden.QuerySpec
