import OutlineQuery.Compiled
import OutlineQuery.Request.Codec
import OutlineQuery.Request.Resolution

/-!
From requests to compiled searches. What resolution reports comes before what compilation does.
-/
namespace OutlineQuery.Request

def compile (config : Config) (r : Request) : Except CompileError Compiled := do
  let search ← r.resolve config
  let compiled ← Compiled.ofSearch config search.value
  return compiled.withEarlier search.notes

def compileText (config : Config) (text : String) : Except CompileError Compiled := do
  (← parse text).compile config

end OutlineQuery.Request
