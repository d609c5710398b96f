import TroffTable.Config.Yaml.Unfold

/-! YAML texts that hold one document at most. -/

namespace TroffTable

/-- Reads a text. One without a document stands for the empty value. -/
def readYaml (s : List Char) : Read Value := do
  let graph ← yamlGraph (← yamlTokens s)
  match graph.root with
  | some root =>
    let (object, objects) ← yamlObjects graph.nodes root
    .ok (documentValue objects root object)
  | none => .ok .null

/-- The reader of YAML files with which the tool is run. -/
def yamlReader : YamlReader :=
  readBytes fun s => readYaml (unifyLineEnds s)

end TroffTable
