import Holidays.Yaml.Node
import Holidays.Yaml.Token

namespace Holidays.Yaml

structure Reading where
  tokens : List Token
  handles : List (String × String)
  /-- Anchors with their numbers, the last one first. -/
  anchors : List (String × Nat)
  nodes : List (Nat × Node)

abbrev Read (α : Type) := StateT Reading Option α

namespace Read

def first? : Read (Option Token) := do return (← get).tokens.head?

def advance : Read Unit := modify fun r => { r with tokens := r.tokens.drop 1 }

def isAt (ts : List Token) : Read Bool := do return (← first?).any (ts.contains ·)

/-- The node that an anchor names; the anchor of a node that is still being read names a bad one. -/
def aliased (name : String) : Read Node := do
  let r ← get
  match r.anchors.find? fun a => a.1 = name with
  | none => failure
  | some (_, n) => return ((r.nodes.find? fun x => x.1 = n).map (·.2)).getD .bad

def anchor? : Read (Option Nat) := do
  match ← first? with
  | some (.anchor name) =>
    advance
    let n := (← get).anchors.length
    modify fun r => { r with anchors := (name, n) :: r.anchors }
    return some n
  | _ => return none

def tag? : Read (Option Tag) := do
  match ← first? with
  | some (.tag t) =>
    advance
    match t.resolved? (← get).handles with
    | none => failure
    | some t => return some t
  | _ => return none

def properties : Read (Option Nat × Option Tag) := do
  match ← anchor? with
  | some n => return (some n, ← tag?)
  | none =>
    match ← tag? with
    | some t => return (← anchor?, some t)
    | none => return (none, none)

def finish (anchor : Option Nat) (node : Node) : Read Node := do
  match anchor with
  | none => return node
  | some n =>
    modify fun r => { r with nodes := (n, node) :: r.nodes }
    return node

def tableOf (nodes : List Node) : Read Node := do
  match Node.tableOf? [] nodes with
  | none => failure
  | some node => return node

mutual

def node (block level : Bool) : Nat → Read Node
  | 0 => failure
  | fuel + 1 => do
    match ← first? with
    | some (.alias name) =>
      advance
      aliased name
    | _ =>
      let (anchor, tag) ← properties
      finish anchor (← content block level (anchor.isSome || tag.isSome) tag fuel)

/-- What a node is, its anchor and its tag read already; with one of these it may be empty. -/
def content (block level mayEmpty : Bool) (tag : Option Tag) : Nat → Read Node
  | 0 => failure
  | fuel + 1 => do
    match ← first? with
    | some (.scalar plain text) =>
      advance
      return .ofScalar plain text tag
    | some .flowList =>
      advance
      return .list (← flowItems true fuel)
    | some .flowTable =>
      advance
      tableOf (← flowEntries true fuel)
    | found =>
      if found = some .blockItem ∧ level then return .list (← levelItems fuel)
      else if found = some .blockList ∧ block then
        advance
        return .list (← blockItems fuel)
      else if found = some .blockTable ∧ block then
        advance
        tableOf (← blockEntries fuel)
      else if mayEmpty then return .ofScalar true "" tag
      else failure

def nodeUnless (ends : List Token) (block level : Bool) : Nat → Read Node
  | 0 => failure
  | fuel + 1 => do if ← isAt ends then return .null else node block level fuel

def blockItems : Nat → Read (List Node)
  | 0 => failure
  | fuel + 1 => do
    match ← first? with
    | some .blockEnd =>
      advance
      return []
    | some .blockItem =>
      advance
      let found ← nodeUnless [.blockItem, .blockEnd] true false fuel
      return found :: (← blockItems fuel)
    | _ => failure

def levelItems : Nat → Read (List Node)
  | 0 => failure
  | fuel + 1 => do
    match ← first? with
    | some .blockItem =>
      advance
      let found ← nodeUnless [.blockItem, .key, .value, .blockEnd] true false fuel
      return found :: (← levelItems fuel)
    | _ => return []

def blockEntries : Nat → Read (List Node)
  | 0 => failure
  | fuel + 1 => do
    match ← first? with
    | some .blockEnd =>
      advance
      return []
    | some .key =>
      advance
      let name ← nodeUnless [.key, .value, .blockEnd] true true fuel
      let value ← blockValue fuel
      return name :: value :: (← blockEntries fuel)
    | some .value =>
      let value ← blockValue fuel
      return .null :: value :: (← blockEntries fuel)
    | _ => failure

def blockValue : Nat → Read Node
  | 0 => failure
  | fuel + 1 => do
    if ← isAt [.value] then
      advance
      nodeUnless [.key, .value, .blockEnd] true true fuel
    else return .null

def flowItems (opened : Bool) : Nat → Read (List Node)
  | 0 => failure
  | fuel + 1 => do
    if ← isAt [.flowListEnd] then
      advance
      return []
    if !opened then
      if ← isAt [.flowItem] then advance else failure
    match ← first? with
    | some .flowListEnd =>
      advance
      return []
    | some .key =>
      advance
      let found ← pair fuel
      return found :: (← flowItems false fuel)
    | _ =>
      let found ← node false false fuel
      return found :: (← flowItems false fuel)

def pair : Nat → Read Node
  | 0 => failure
  | fuel + 1 => do
    let bare ← isAt [.value, .flowItem, .flowListEnd]
    let name ← if bare then do advance; pure .null else node false false fuel
    let value ← if ← isAt [.value] then do
        advance
        nodeUnless [.flowItem, .flowListEnd] false false fuel
      else pure .null
    tableOf [name, value]

def flowEntries (opened : Bool) : Nat → Read (List Node)
  | 0 => failure
  | fuel + 1 => do
    if ← isAt [.flowTableEnd] then
      advance
      return []
    if !opened then
      if ← isAt [.flowItem] then advance else failure
    match ← first? with
    | some .flowTableEnd =>
      advance
      return []
    | some .key =>
      advance
      let name ← nodeUnless [.value, .flowItem, .flowTableEnd] false false fuel
      let value ← flowValue fuel
      return name :: value :: (← flowEntries false fuel)
    | some .value =>
      let value ← flowValue fuel
      return .null :: value :: (← flowEntries false fuel)
    | _ =>
      let name ← node false false fuel
      return name :: .null :: (← flowEntries false fuel)

def flowValue : Nat → Read Node
  | 0 => failure
  | fuel + 1 => do
    if ← isAt [.value] then
      advance
      nodeUnless [.flowItem, .flowTableEnd] false false fuel
    else return .null

end

/-- The directives in front of a document; only the last of them counts. -/
def directives : List Token → List (String × String) → List (String × String) × List Token
  | .directive .version :: rest, _ => directives rest []
  | .directive (.tag handle lead) :: rest, _ => directives rest [(handle, lead)]
  | tokens, handles => (handles, tokens)

end Read

/-- The document that tokens make, if there is one; `none` in place of an answer where there are
more or they make none. No five calls in a row leave the tokens as they are, so the fuel lasts. -/
def document? (tokens : List Token) : Option (Option Node) := do
  let isMark (t : Token) : Bool := t == .documentEnd
  let (handles, found) := Read.directives (tokens.dropWhile isMark) []
  if tokens.dropWhile isMark = [] then return none
  let body ← match found with
    | .documentStart :: body => some body
    | body => if (tokens.dropWhile isMark).length = body.length then some body else none
  let (node, r) ← (Read.node true false (5 * tokens.length + 5)).run ⟨body, handles, [], []⟩
  if r.tokens.dropWhile isMark = [] then return some node else none

/-- The settings of a text, which a null character ends. -/
def read? (text : String) : Option (List (String × Setting)) := do
  match ← document? (← tokens? (text.toList.takeWhile (· ≠ '\x00'))) with
  | none => some []
  | some node =>
    match ← node.setting? with
    | .table entries => some entries
    | _ => none

end Holidays.Yaml
