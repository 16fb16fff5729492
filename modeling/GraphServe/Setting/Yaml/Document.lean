import GraphServe.Setting.Yaml.Node
import GraphServe.Setting.Yaml.Token

/-!
# The structure of YAML documents

The node that the tokens of a document make. An alias stands for the node with the latest anchor of
its name; within that node itself it stands for nothing.
-/

namespace GraphServe.Setting.Yaml

/-- What is known of a document up to a token. -/
structure Draft where
  tokens : List Token
  /-- What the handles of tags stand for. -/
  handles : List (String × String)
  /-- The numbers of anchors by name, the latest one first. -/
  anchors : List (String × Nat)
  /-- The nodes of anchors by number. -/
  nodes : List (Nat × Node)

/-- A reader of tokens. -/
abbrev Compose := StateT Draft Option

namespace Compose

/-- Refuses the document. -/
def refuse : Compose α := fun _ => none

/-- Gives a value if there is one, and refuses the document else. -/
def given (a? : Option α) : Compose α := fun draft => a?.map (·, draft)

/-- The next token, which stays. -/
def peek? : Compose (Option Token) := return (← get).tokens.head?

/-- Passes over a token. -/
def skip : Compose Unit := modify fun draft => { draft with tokens := draft.tokens.tail }

/-- Takes a token if it comes next, and says whether it did. -/
def accept (token : Token) : Compose Bool := do
  if (← peek?) = some token then
    skip
    return true
  else return false

/-- A node, unless one of the given tokens comes next; then there is none. -/
def nodeUnless (ends : List Token) (node : Compose Node) : Compose Node := do
  if (← peek?).any (· ∈ ends) then return .null else node

/-- A value behind its sign, if that comes next. -/
def valueUnless (ends : List Token) (node : Compose Node) : Compose Node := do
  if ← accept .value then nodeUnless ends node else return .null

/-! ## Properties -/

/-- Gives an anchor the next number. -/
def register (name : String) : Compose Nat := do
  let draft ← get
  let number := draft.anchors.length + 1
  set { draft with anchors := (name, number) :: draft.anchors }
  return number

/-- Keeps the node of an anchor. -/
def keep (number? : Option Nat) (node : Node) : Compose Node := do
  match number? with
  | some number =>
    modify fun draft => { draft with nodes := (number, node) :: draft.nodes }
    return node
  | none => return node

/-- The node that an alias stands for. -/
def aliased (name : String) : Compose Node := do
  let draft ← get
  match draft.anchors.lookup name with
  | some number => return (draft.nodes.lookup number).getD .bad
  | none => refuse

/-- A tag with what its handle stands for. A handle with a sign of its own must be known. -/
def resolved (handle suffix : String) : Compose (String × String) := do
  match (← get).handles.lookup handle with
  | some expansion => return (expansion, suffix)
  | none =>
    if handle = "!!" then return (Scalar.commonTypes, suffix)
    else if 2 ≤ handle.length && handle.endsWith "!" then refuse
    else return (handle, suffix)

/-- An anchor, if it comes next. -/
def anchor? : Compose (Option Nat) := do
  match ← peek? with
  | some (.anchor name) =>
    skip
    return some (← register name)
  | _ => return none

/-- A tag, if it comes next. -/
def tag? : Compose (Option (String × String)) := do
  match ← peek? with
  | some (.tag handle suffix) =>
    skip
    return some (← resolved handle suffix)
  | _ => return none

/-- The properties of a node, of each kind at most one, in either order. -/
def properties : Compose (Option Nat × Option (String × String)) := do
  match ← anchor? with
  | some number => return (some number, ← tag?)
  | none =>
    match ← tag? with
    | some tag => return (← anchor?, some tag)
    | none => return (none, none)

/-- The node of a scalar. -/
def scalarNode (plain : Bool) (tag? : Option (String × String)) (text : String) : Node :=
  if !plain then .scalar (.text text)
  else
    match tag? with
    | none => .scalar (.ofPlain text)
    | some (handle, suffix) => ((Scalar.ofTagged? handle suffix text).map .scalar).getD .bad

/-! ## Blocks -/

/-- The items of a list in a block, up to its end. -/
def blockItems (node : Compose Node) : (bound : Nat) → Compose (List Node)
  | 0 => refuse
  | bound + 1 => do
    if ← accept .blockEnd then return []
    else if ← accept .item then
      let first ← nodeUnless [.item, .blockEnd] node
      return first :: (← blockItems node bound)
    else refuse

/-- The items of a list that is indented like the key it belongs to. -/
def looseItems (node : Compose Node) : (bound : Nat) → Compose (List Node)
  | 0 => refuse
  | bound + 1 => do
    if ← accept .item then
      let first ← nodeUnless [.item, .key, .value, .blockEnd] node
      return first :: (← looseItems node bound)
    else return []

/-- The keys and values of a table in a block in turn, up to its end. -/
def blockPairs (node : Compose Node) : (bound : Nat) → Compose (List Node)
  | 0 => refuse
  | bound + 1 => do
    let ends := [.key, .value, .blockEnd]
    if ← accept .blockEnd then return []
    let key ←
      if ← accept .key then nodeUnless ends node
      else if (← peek?) = some .value then pure .null
      else refuse
    let value ← valueUnless ends node
    return key :: value :: (← blockPairs node bound)

/-! ## Brackets -/

/-- The key and the value of a pair without braces behind its sign. -/
def pair (node : Compose Node) : Compose Node := do
  let ends := [.comma, .listEnd]
  let key ←
    if (← peek?).any (· ∈ .value :: ends) then do
      -- what follows a missing key belongs to it
      skip
      pure .null
    else node
  let value ← valueUnless ends node
  given (Node.tableOf? [key, value])

/-- The items of a list in brackets, up to its end. `first` says whether none has been read yet. -/
def listItems (node : Compose Node) (first : Bool) : (bound : Nat) → Compose (List Node)
  | 0 => refuse
  | bound + 1 => do
    if ← accept .listEnd then return []
    if !first then
      if !(← accept .comma) then refuse
    if ← accept .listEnd then return []
    let item ← if ← accept .key then pair node else node
    return item :: (← listItems node false bound)

/-- The keys and values of a table in braces in turn, up to its end. -/
def tablePairs (node : Compose Node) (first : Bool) : (bound : Nat) → Compose (List Node)
  | 0 => refuse
  | bound + 1 => do
    let ends := [.comma, .tableEnd]
    if ← accept .tableEnd then return []
    if !first then
      if !(← accept .comma) then refuse
    if ← accept .tableEnd then return []
    let (key, value) ←
      if ← accept .key then do
        let key ← nodeUnless (.value :: ends) node
        pure (key, ← valueUnless ends node)
      else if (← peek?) = some .value then pure (.null, ← valueUnless ends node)
      else pure (← node, .null)
    return key :: value :: (← tablePairs node false bound)

/-! ## Nodes -/

/-- A node that contains others to the given depth. `block` says whether it may be a block, and `loose`
whether the items of a list may be indented like the key it belongs to. -/
def node : (depth : Nat) → (block loose : Bool) → Compose Node
  | 0, _, _ => refuse
  | depth + 1, block, loose => do
    match ← peek? with
    | some (.alias name) =>
      skip
      aliased name
    | _ =>
      let (anchor?, tag?) ← properties
      let bound := (← get).tokens.length + 1
      let next ← peek?
      let content ←
        match next with
        | some (.scalar plain written) =>
          skip
          pure (scalarNode plain tag? written)
        | some .listStart =>
          skip
          pure (.list (← listItems (node depth false false) true bound))
        | some .tableStart =>
          skip
          given (Node.tableOf? (← tablePairs (node depth false false) true bound))
        | _ =>
          if next = some .blockListStart && block then
            skip
            pure (.list (← blockItems (node depth true false) bound))
          else if next = some .blockTableStart && block then
            skip
            given (Node.tableOf? (← blockPairs (node depth true true) bound))
          else if next = some .item && loose then
            pure (.list (← looseItems (node depth true false) bound))
          else if anchor?.isSome || tag?.isSome then pure (scalarNode true tag? "")
          else refuse
      keep anchor? content

/-! ## Documents -/

/-- Passes over at most `bound` tokens that end documents. -/
def skipEnds : (bound : Nat) → Compose Unit
  | 0 => return ()
  | bound + 1 => do
    if ← accept .documentEnd then skipEnds bound

/-- The directives in front of a document, at most `bound` of them. Only what the last one says about
handles counts, and the version is given once. -/
def directives (versioned : Bool) : (bound : Nat) → Compose Unit
  | 0 => return ()
  | bound + 1 => do
    match ← peek? with
    | some .version =>
      if versioned then refuse
      skip
      modify fun draft => { draft with handles := [] }
      directives true bound
    | some (.tagHandle handle expansion) =>
      skip
      modify fun draft => { draft with handles := [(handle, expansion)] }
      directives versioned bound
    | _ => return ()

/-- Whether a token stands outside documents. -/
def isOutside : Option Token → Bool
  | none => true
  | some .version => true
  | some (.tagHandle _ _) => true
  | some .documentStart => true
  | some .documentEnd => true
  | some _ => false

/-- The only document, if there is one, with all tokens around it. -/
def document : Compose (Option Node) := do
  let bound := (← get).tokens.length + 1
  skipEnds bound
  if (← peek?).isNone then return none
  if isOutside (← peek?) then
    directives false bound
    if !(← accept .documentStart) then refuse
  let content ← if isOutside (← peek?) then pure .null else node bound true false
  skipEnds bound
  if (← peek?).isSome then refuse
  return some content

end Compose

/-- The node of the only document that tokens make, if there is one. -/
def documentOf? (tokens : List Token) : Option (Option Node) :=
  (Compose.document ⟨tokens, [], [], []⟩).map Prod.fst

end GraphServe.Setting.Yaml
