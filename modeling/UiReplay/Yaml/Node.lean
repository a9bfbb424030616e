import UiReplay.Yaml.Token

/-!
# YAML nodes

The tokens of a text are put together to a tree of scalars, lists and maps.  A node
may have a tag and a name, and a later alias stands for the latest node of that name.
An alias inside the very node that it names has no finite value: it becomes
`Node.endless`, which only matters to a reader that asks for it.

A node that is left out is an empty plain scalar.  A text holds at most one document.
-/

namespace UiReplay.Yaml

/-- A node. -/
inductive Node where
  /-- A scalar, whether it is written plainly, and its tag. -/
  | scalar (text : String) (plain : Bool) (tag : Option String)
  /-- A list and its tag. -/
  | list (items : List Node) (tag : Option String)
  /-- A map and its tag. -/
  | map (entries : List (Node × Node)) (tag : Option String)
  /-- A node that contains itself. -/
  | endless
deriving Repr

/-- A node that is left out. -/
def Node.empty : Node := .scalar "" true none

/-- The state of putting tokens together. -/
structure Builder where
  /-- The tokens that are left. -/
  tokens : List Token
  /-- The names of nodes, latest first. -/
  names : List (String × Nat) := []
  /-- The finished nodes that have a name. -/
  nodes : List (Nat × Node) := []
  /-- How many nodes were named. -/
  count : Nat := 0
  /-- The short forms for the start of tags. -/
  handles : List (String × String) := []

/-- A computation that takes tokens and may fail. -/
abbrev Build (α : Type) := StateT Builder Option α

namespace Build

/-- The next token. -/
def peek : Build (Option Token) := do
  let b ← get
  return b.tokens.head?

/-- Goes past the next token. -/
def advance : Build Unit := modify fun b => { b with tokens := b.tokens.drop 1 }

/-- Goes past the next token if it is the given one. -/
def accept (t : Token) : Build Bool := do
  if (← peek) = some t then
    advance
    return true
  else return false

/-- Goes past the next token, which has to be the given one. -/
def expect (t : Token) : Build Unit := do
  if (← accept t) then return () else failure

/-- Whether the next token is one of some. -/
def nextIn (ts : List Token) : Build Bool := do
  match ← peek with
  | some t => return ts.contains t
  | none => return false

/-- The start of the tags of the format itself. -/
def coreTag : String := "tag:yaml.org,2002:"

/-- The start that a handle stands for. -/
def handleStart? (b : Builder) (handle : String) : Option String :=
  match b.handles.find? (·.1 == handle) with
  | some (_, start) => some start
  | none => if handle == "!" then some "!" else if handle == "!!" then some coreTag else none

/-- The full tag.  A lone exclamation mark is no tag. -/
def fullTag (handle suffix : String) : Build (Option String) := do
  let full ←
    if handle = "" then pure suffix
    else
      match handleStart? (← get) handle with
      | some start => pure (start ++ suffix)
      | none => failure
  return if full = "!" then none else some full

/-- The name and the tag before a node, in either order. -/
def properties : Nat → Option String → Option (Option String) →
    Build (Option String × Option (Option String))
  | 0, name, tag => pure (name, tag)
  | fuel + 1, name, tag => do
      match ← peek with
      | some (.anchor a) =>
          if name.isSome then return (name, tag)
          else
            advance
            properties fuel (some a) tag
      | some (.tag handle suffix) =>
          if tag.isSome then return (name, tag)
          else
            advance
            properties fuel name (some (← fullTag handle suffix))
      | _ => return (name, tag)

/-- Gives a name to a node that is not finished. -/
def openName (name : Option String) : Build Nat := do
  let b ← get
  match name with
  | some a => set { b with names := (a, b.count) :: b.names, count := b.count + 1 }
  | none => pure ()
  return b.count

/-- Records a finished node under its number. -/
def closeName (name : Option String) (number : Nat) (n : Node) : Build Node := do
  if name.isSome then modify fun b => { b with nodes := (number, n) :: b.nodes }
  return n

/-- The node that an alias stands for. -/
def aliased (name : String) : Build Node := do
  let b ← get
  match b.names.find? (·.1 == name) with
  | none => failure
  | some (_, number) =>
      match b.nodes.find? (·.1 == number) with
      | some (_, n) => return n
      | none => return .endless

mutual

/-- A node.  `block` says whether block style is allowed, and `indentless` whether a
list may start without being indented. -/
def node : Nat → Bool → Bool → Build Node
  | 0, _, _ => failure
  | fuel + 1, block, indentless => do
      match ← peek with
      | some (.alias name) =>
          advance
          aliased name
      | _ =>
          let (name, tag) ← properties 2 none none
          let number ← openName name
          let full := tag.join
          match ← peek with
          | some (.scalar text plain) =>
              advance
              closeName name number (.scalar text plain full)
          | some .blockItem =>
              if indentless then
                let items ← plainItems fuel
                closeName name number (.list items full)
              else bare name number tag
          | some .flowList =>
              advance
              let items ← flowItems fuel true
              closeName name number (.list items full)
          | some .flowMap =>
              advance
              let entries ← flowEntries fuel true
              closeName name number (.map entries full)
          | some .blockList =>
              if block then
                advance
                let items ← blockItems fuel
                closeName name number (.list items full)
              else bare name number tag
          | some .blockMap =>
              if block then
                advance
                let entries ← blockEntries fuel
                closeName name number (.map entries full)
              else bare name number tag
          | _ => bare name number tag

/-- A node that is left out after its name or tag. -/
def bare (name : Option String) (number : Nat) (tag : Option (Option String)) : Build Node := do
  if name.isSome || tag.isSome then closeName name number (.scalar "" true tag.join)
  else failure

/-- A node, or the empty one when one of some tokens follows. -/
def nodeUnless (ends : List Token) : Nat → Bool → Bool → Build Node
  | 0, _, _ => failure
  | fuel + 1, block, indentless => do
      if (← nextIn ends) then return Node.empty else node fuel block indentless

/-- The items of a list in block style. -/
def blockItems : Nat → Build (List Node)
  | 0 => failure
  | fuel + 1 => do
      if (← accept .blockItem) then
        let n ← nodeUnless [.blockItem, .blockEnd] fuel true false
        let rest ← blockItems fuel
        return n :: rest
      else
        expect .blockEnd
        return []

/-- The items of a list that is not indented. -/
def plainItems : Nat → Build (List Node)
  | 0 => failure
  | fuel + 1 => do
      if (← accept .blockItem) then
        let n ← nodeUnless [.blockItem, .key, .value, .blockEnd] fuel true false
        let rest ← plainItems fuel
        return n :: rest
      else return []

/-- The entries of a map in block style. -/
def blockEntries : Nat → Build (List (Node × Node))
  | 0 => failure
  | fuel + 1 => do
      if (← accept .key) then
        let k ← nodeUnless [.key, .value, .blockEnd] fuel true true
        let v ←
          if (← accept .value) then nodeUnless [.key, .value, .blockEnd] fuel true true
          else pure Node.empty
        let rest ← blockEntries fuel
        return (k, v) :: rest
      else
        expect .blockEnd
        return []

/-- The items of a list in flow style. -/
def flowItems : Nat → Bool → Build (List Node)
  | 0, _ => failure
  | fuel + 1, first => do
      if (← accept .flowListEnd) then return []
      else
        if !first then expect .flowItem
        if (← accept .flowListEnd) then return []
        else if (← accept .key) then
          let entry ← flowPair fuel
          let rest ← flowItems fuel false
          return .map [entry] none :: rest
        else
          let n ← node fuel false false
          let rest ← flowItems fuel false
          return n :: rest

/-- A single entry of a map that stands in a list.  An empty key takes the token after
it along. -/
def flowPair : Nat → Build (Node × Node)
  | 0 => failure
  | fuel + 1 => do
      let k ←
        if (← nextIn [.value, .flowItem, .flowListEnd]) then
          advance
          pure Node.empty
        else node fuel false false
      let v ←
        if (← accept .value) then nodeUnless [.flowItem, .flowListEnd] fuel false false
        else pure Node.empty
      return (k, v)

/-- The entries of a map in flow style. -/
def flowEntries : Nat → Bool → Build (List (Node × Node))
  | 0, _ => failure
  | fuel + 1, first => do
      if (← accept .flowMapEnd) then return []
      else
        if !first then expect .flowItem
        if (← accept .flowMapEnd) then return []
        else if (← accept .key) then
          let k ← nodeUnless [.value, .flowItem, .flowMapEnd] fuel false false
          let v ←
            if (← accept .value) then nodeUnless [.flowItem, .flowMapEnd] fuel false false
            else pure Node.empty
          let rest ← flowEntries fuel false
          return (k, v) :: rest
        else
          let k ← node fuel false false
          let rest ← flowEntries fuel false
          return (k, Node.empty) :: rest

end

/-- The directives before a document. -/
def directives : Nat → Bool → List (String × String) → Build (List (String × String) × Bool)
  | 0, _, _ => failure
  | fuel + 1, versioned, handles => do
      match ← peek with
      | some (.version major minor) =>
          if versioned || major != 1 || (minor != 1 && minor != 2) then failure
          else
            advance
            directives fuel true handles
      | some (.tagHandle handle start) =>
          if handles.any (·.1 == handle) then failure
          else
            advance
            directives fuel versioned (handles ++ [(handle, start)])
      | _ => return (handles, versioned || !handles.isEmpty)

/-- Goes past marks after a document. -/
def skipEnds : Nat → Build Unit
  | 0 => pure ()
  | fuel + 1 => do
      if (← accept .documentEnd) then skipEnds fuel

/-- The content of a document. -/
def content (fuel : Nat) : Build Node := do
  match ← peek with
  | none | some .documentStart | some .documentEnd | some (.version _ _)
  | some (.tagHandle _ _) => return Node.empty
  | _ => node fuel true false

/-- The only document of a text, `none` in an empty one.  After directives the mark
before the document has to stand. -/
def document (fuel : Nat) : Build (Option Node) := do
  match ← peek with
  | none => return none
  | _ =>
      let (handles, declared) ← directives fuel false []
      modify fun b => { b with handles := handles }
      let started ← accept .documentStart
      if declared && !started then failure
      let n ← content fuel
      skipEnds fuel
      match ← peek with
      | none => return some n
      | some _ => failure

end Build

/-- What a text holds: nothing, or one node. -/
def read? (text : String) : Option (Option Node) := do
  let ts ← tokens? text
  let (n, _) ← (Build.document (4 * ts.length + 8)).run { tokens := ts }
  return n

end UiReplay.Yaml
