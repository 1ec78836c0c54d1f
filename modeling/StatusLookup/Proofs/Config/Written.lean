import StatusLookup.Config.FromYaml
import StatusLookup.Proofs.Yaml.Lines

/-!
# Writing configurations

A configuration can be written as a YAML text in which every text stands between double quotes.
Such a text is read as the configuration, whatever the texts are: they may be empty, look like
numbers or have any characters in them, and the name of a variable stays apart from a literal text.

On the way from the text to the configuration there are its tokens, its nodes and, for the key
prefix, the value apart from its notation. Each of them is given for every configuration.
-/

namespace StatusLookup

open Yaml

/-! ## Lines -/

def EnvValue.lines (indent : Nat) : EnvValue → List Line
  | literal text => [⟨0, "key_prefix", some text, by decide⟩]
  | fromVariable name none =>
    [⟨0, "key_prefix", none, by decide⟩, ⟨indent + 1, "env", some name, by decide⟩]
  | fromVariable name (some fallback) =>
    [⟨0, "key_prefix", none, by decide⟩, ⟨indent + 1, "env", some name, by decide⟩,
      ⟨indent + 1, "default", some fallback, by decide⟩]

def StoreConfig.lines (indent : Nat) (c : StoreConfig) : List Line :=
  [⟨0, "store", none, by decide⟩, ⟨indent + 1, "root", some c.root, by decide⟩]

/-- A configuration as a YAML text. The entries of the inner mappings are indented by one space more
than is said, since they have to be indented at all. With 1 for the indentation, a text is
```
key_prefix:
  env: "NAME"
  default: "a\U0000000Ab"
store:
  root: "records"
```
-/
def Config.toYaml (indent : Nat) (c : Config) : String :=
  Line.write (c.keyPrefix.lines indent ++ c.store.lines indent)

/-! ## Tokens -/

def EnvValue.tokens : EnvValue → List Token
  | literal text => [.scalar text false]
  | fromVariable name none =>
    [.blockMappingStart, .key, .scalar "env" true, .value, .scalar name false, .blockEnd]
  | fromVariable name (some fallback) =>
    [.blockMappingStart, .key, .scalar "env" true, .value, .scalar name false,
      .key, .scalar "default" true, .value, .scalar fallback false, .blockEnd]

def StoreConfig.tokens (c : StoreConfig) : List Token :=
  [.blockMappingStart, .key, .scalar "root" true, .value, .scalar c.root false, .blockEnd]

def Config.tokens (c : Config) : List Token :=
  [.blockMappingStart, .key, .scalar "key_prefix" true, .value] ++ c.keyPrefix.tokens ++
    ([.key, .scalar "store" true, .value] ++ c.store.tokens ++ [.blockEnd, .streamEnd])

theorem Config.tokens_toYaml (indent : Nat) (c : Config) :
    Yaml.tokens (c.toYaml indent) = c.tokens := by
  obtain ⟨keyPrefix, store⟩ := c
  rw [toYaml, tokens_write]
  rcases keyPrefix with text | ⟨name, _ | fallback⟩
  -- What is left is a list of lines with fixed columns, so the open columns are computed.
  all_goals
    simp [EnvValue.lines, StoreConfig.lines, tokens, EnvValue.tokens, StoreConfig.tokens,
      Line.tokensFrom, Line.tokens, Line.columns, Line.kept, Line.valueTokens, Scan.keyTokens,
      Scan.columnsBehind, Scan.opens]

/-! ## Nodes -/

namespace Yaml.Node

def quoted (text : String) : Node :=
  scalar none text false

def plain (text : String) : Node :=
  scalar none text true

end Yaml.Node

def EnvValue.node : EnvValue → Node
  | literal text => .quoted text
  | fromVariable name none => .mapping none [(.plain "env", .quoted name)]
  | fromVariable name (some fallback) =>
    .mapping none [(.plain "env", .quoted name), (.plain "default", .quoted fallback)]

def StoreConfig.node (c : StoreConfig) : Node :=
  .mapping none [(.plain "root", .quoted c.root)]

def Config.node (c : Config) : Node :=
  .mapping none [(.plain "key_prefix", c.keyPrefix.node), (.plain "store", c.store.node)]

/-- What is written is one document, and it has no anchors. -/
theorem Config.ofText_toYaml (indent : Nat) (c : Config) :
    ∃ size, Document.ofText (c.toYaml indent) = ⟨c.node, [], size, true⟩ := by
  rw [Document.ofText, tokens_toYaml]
  obtain ⟨keyPrefix, store⟩ := c
  cases keyPrefix with
  | literal text => exact ⟨_, rfl⟩
  | fromVariable name fallback =>
      cases fallback with
      | none => exact ⟨_, rfl⟩
      | some fallback => exact ⟨_, rfl⟩

/-! ## Reading -/

section Reading

variable (d : Document) (path : YamlPath)

namespace Yaml.Node

theorem readText_plain (wanted : Wanted) (text : String) :
    (plain text).readText d path wanted = pure text := rfl

theorem readContent_quoted (depth : Nat) (text : String) :
    (quoted text).readContent d depth path = pure (.text text) := by
  rw [quoted, readContent]
  rfl

/-- Without quotes a text must not be one of those that mean something else. -/
theorem readContent_plain {text : String} (isText : ScalarValue.ofPlain text = .text text)
    (depth : Nat) : (plain text).readContent d depth path = pure (.text text) := by
  rw [plain, readContent]
  simp [Document.follow, checkTag, ScalarValue.ofScalar?, isText, ScalarValue.content?]

theorem readContent_mapping (depth : Nat) (entries : List (Node × Node)) :
    (mapping none entries).readContent d (depth + 1) path = (do
      let entries ← entries.mapM fun (key, value) => do
        let k ← key.readContent d depth path
        let v ← value.readContent d depth (key.step :: path)
        return (k, v)
      return .map entries) := by
  rw [readContent]
  rfl

end Yaml.Node

/-- What a value is apart from its notation. -/
def EnvValue.content : EnvValue → Content
  | literal text => .text text
  | fromVariable name none => .map [(.text "env", .text name)]
  | fromVariable name (some fallback) =>
    .map [(.text "env", .text name), (.text "default", .text fallback)]

theorem EnvValue.ofContent?_content (v : EnvValue) : ofContent? v.content = some v := by
  cases v with
  | literal text => rfl
  | fromVariable name fallback => cases fallback <;> rfl

theorem EnvValue.readContent_node (depth : Nat) (v : EnvValue) :
    v.node.readContent d (depth + 1) path = pure v.content := by
  have env : (Node.plain "env").readContent d depth path = pure (.text "env") :=
    Node.readContent_plain d path rfl depth
  have default : (Node.plain "default").readContent d depth path = pure (.text "default") :=
    Node.readContent_plain d path rfl depth
  cases v with
  | literal text => exact Node.readContent_quoted d path _ text
  | fromVariable name fallback =>
      cases fallback with
      | none => simp [node, content, Node.readContent_mapping, Node.readContent_quoted, env]
      | some fallback =>
          simp [node, content, Node.readContent_mapping, Node.readContent_quoted, env, default]

theorem EnvValue.ofNode_node (v : EnvValue) : ofNode d path v.node = pure v := by
  rw [ofNode, maxDepth, readContent_node, pure_bind, ofContent?_content]

theorem StoreConfig.ofNode_node (c : StoreConfig) : ofNode d path c.node = pure c := rfl

namespace Config

theorem readEntry_keyPrefix (v : EnvValue) (store : Option StoreConfig) :
    readEntry d ⟨none, store⟩ (.plain "key_prefix", v.node) = pure ⟨some v, store⟩ := by
  simp [readEntry, Node.readText_plain, EnvValue.ofNode_node]

theorem readEntry_store (c : StoreConfig) (v : Option EnvValue) :
    readEntry d ⟨v, none⟩ (.plain "store", c.node) = pure ⟨v, some c⟩ := by
  simp [readEntry, Node.readText_plain, StoreConfig.ofNode_node]

theorem ofDocument_node {c : Config} (root : d.root = c.node) : ofDocument d = pure c := by
  have entries : c.node.readEntries d [] .config =
      pure [(.plain "key_prefix", c.keyPrefix.node), (.plain "store", c.store.node)] := rfl
  rw [ofDocument, root, entries, pure_bind, List.foldlM_cons, readEntry_keyPrefix, pure_bind,
    List.foldlM_cons, readEntry_store, pure_bind, List.foldlM_nil, pure_bind]
  rfl

end Config

end Reading

/-- Reading undoes writing, for all texts in a configuration and however far its inner entries are
indented. -/
theorem Config.ofYaml_toYaml (indent : Nat) (c : Config) : ofYaml (c.toYaml indent) = .ok c := by
  obtain ⟨size, written⟩ := ofText_toYaml indent c
  have read : ofDocument ⟨c.node, [], size, true⟩ = pure c := ofDocument_node _ rfl
  rw [ofYaml, written, Reading.run?, read]
  rfl

end StatusLookup
