/-
**YAML nodes.**

What a YAML document is made of. A scalar keeps its text as it is written and its style; what it
stands for is for the reader of the node to decide.

* `Node.cut` stands where a text goes wrong, so that everything in front of that place can be looked
  at;
* `Node.endless` is an alias to a collection that the alias itself stands in.
-/

import InfoModel.Yaml.Token

namespace InfoModel.Yaml

/-- A node of a document. -/
inductive Node where
  | scalar (style : Style) (tag : Option String) (text : String)
  | sequence (tag : Option String) (items : List Node)
  | mapping (tag : Option String) (pairs : List (Node × Node))
  /-- A collection inside itself. -/
  | endless
  /-- Nothing that could be read. -/
  | cut

namespace Node

instance : Inhabited Node := ⟨.cut⟩

/-- The node of a place where nothing is written. -/
def empty : Node :=
  .scalar .plain none ""

end Node

end InfoModel.Yaml
