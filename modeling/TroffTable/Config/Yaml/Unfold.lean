import TroffTable.Config.Yaml.Object

/-! Values from the objects of a YAML text. An object that is inside of itself is cut off
where it comes up again. -/

namespace TroffTable

/-- Values that are known by the numbers of their nodes. -/
abbrev Unfolded := Array (Option Value)

def YamlObject.isMap : YamlObject → Bool
  | .map _ => true
  | _ => false

/-- The value of an object inside of others, and whether nothing is cut off in it. Then
it is the same everywhere, and is kept. -/
def unfoldObject (objects : Array (Option YamlObject)) :
    Nat → List YamlRef → YamlRef → StateM Unfolded (Value × Bool)
  | 0, _, _ => pure (.null, false)
  | depth + 1, outside, ref => do
    match (← get)[ref]?.join, objects[ref]?.join with
    | some v, _ => pure (v, true)
    | none, none => pure (.null, true)
    | none, some object =>
      if outside.contains ref then pure (.cycle object.isMap, false)
      else
        let inner := unfoldObject objects depth (ref :: outside)
        let (v, whole) ← match object with
          | .value v => pure (v, true)
          | .set items => pure (.set items, true)
          | .list refs => do
            let items ← refs.mapM inner
            pure (.list (items.map (·.1)), items.all (·.2))
          | .pairs refs => do
            let items ← refs.mapM fun (first, second) => do pure (← inner first, ← inner second)
            pure (.list (items.map fun (v, w) => .pair v.1 w.1), items.all fun (v, w) => v.2 && w.2)
          | .map refs => do
            let entries ← refs.mapM fun (key, value) => do pure (key, ← inner value)
            pure (.map (entries.map fun (key, v) => (key, v.1)), entries.all (·.2.2))
        if whole then modify fun known => known.modify ref fun _ => some v
        pure (v, whole)

/-- The value of a document. What its entries hold is unfolded for each of them alone. -/
def documentValue (objects : Array (Option YamlObject)) (root : YamlRef) (object : YamlObject) :
    Value :=
  let depth := objects.size + 1
  let known : Unfolded := Array.replicate objects.size none
  match object with
  | .map refs =>
    let entries := refs.mapM fun (key, value) => do
      pure (key, (← unfoldObject objects depth [] value).1)
    .map (entries.run known).1
  | _ => ((unfoldObject objects depth [] root).run known).1.1

end TroffTable
