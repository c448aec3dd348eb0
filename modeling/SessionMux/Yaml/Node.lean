import SessionMux.Yaml.Lexer

/-!
A document as a tree of nodes, read from its tokens. A node that is used again is marked with an
anchor, and an alias stands for it elsewhere; `Document.resolve?` finds the node of an alias.
-/

namespace SessionMux.Yaml

inductive Node
  | scalar (text : String) (style : ScalarStyle) (tag : Option String)
  | sequence (items : List Node)
  | mapping (entries : List (Node × Node))
  /-- Stands for an anchored node, by the number of the anchor's name. -/
  | alias (number : Nat)
  deriving Repr

def Node.empty : Node := .scalar "" .plain none

structure Anchored where
  number : Nat
  /-- How many anchored nodes begin in front of it. -/
  place : Nat
  node : Node

structure Document where
  root : Node
  anchored : List Anchored

/-- The node of a number: of several that have it, the one that begins last. -/
def Document.resolve? (document : Document) (number : Nat) : Option Node :=
  let candidates := document.anchored.filter (·.number = number)
  let last := candidates.foldl (fun last candidate => max last candidate.place) 0
  (candidates.find? (·.place = last)).map (·.node)

structure Reader where
  tokens : List Token
  /-- For each handle of a tag what it stands for, the latest first. -/
  handles : List (String × String)
  /-- For each anchor its number, the latest first. -/
  anchors : List (String × Nat)
  places : Nat
  anchored : List Anchored

abbrev Reading := StateT Reader Option

namespace Reading

def peek : Reading (Option Token) := return (← get).tokens.head?

def skip : Reading Unit := modify fun reader => { reader with tokens := reader.tokens.drop 1 }

def isAt (tokens : List Token) : Reading Bool := return (← peek).any tokens.contains

def skipIf (token : Token) : Reading Bool := do
  let found ← isAt [token]
  if found then skip
  return found

def require (token : Token) : Reading Unit := do
  if ← skipIf token then return else failure

/-! ### What stands in front of a node -/

def tagOf (handle suffix : String) : Reading String := do
  if handle.isEmpty then return suffix
  else
    let start ← (← get).handles.lookup handle
    return start ++ suffix

/-- Marks a node that begins here. Its number is the count of the names before it; where a name is
given anew, the count does not grow, so the next name has the same number. -/
def declare (name : String) : Reading (Nat × Nat) :=
  modifyGet fun reader =>
    let number := (reader.anchors.map Prod.fst).eraseDups.length
    ((number, reader.places),
      { reader with
        anchors := (name, number) :: reader.anchors
        places := reader.places + 1 })

def keep (mark : Option (Nat × Nat)) (node : Node) : Reading Node :=
  match mark with
  | none => return node
  | some (number, place) =>
    modifyGet fun reader =>
      (node, { reader with anchored := { number, place, node } :: reader.anchored })

def anchor? : Reading (Option String) := do
  match ← peek with
  | some (.anchor name) => skip; return some name
  | _ => return none

def tag? : Reading (Option String) := do
  match ← peek with
  | some (.tag handle suffix) => skip; return some (← tagOf handle suffix)
  | _ => return none

def properties : Reading (Option String × Option String) := do
  match ← anchor? with
  | some name => return (some name, ← tag?)
  | none =>
    let tag ← tag?
    return (← anchor?, tag)

end Reading

/-! ### Nodes -/

inductive Place
  /-- A block, where collections may be told by indentation. -/
  | block
  /-- A mapping in a block, where a sequence need not be indented. -/
  | entry
  | flow
  deriving DecidableEq

open Reading in
mutual

def readNode (place : Place) : Nat → Reading Node
  | 0 => failure
  | fuel + 1 => do
    match ← peek with
    | some (.alias name) =>
      skip
      return .alias (← (← get).anchors.lookup name)
    | _ =>
      let (name, tag) ← properties
      let mark ← name.mapM declare
      match ← peek with
      | some .dash =>
        if place = .entry then keep mark (.sequence (← readIndentless fuel))
        else if name.isSome || tag.isSome then keep mark (.scalar "" .plain tag)
        else failure
      | some (.scalar text style) =>
        skip
        keep mark (.scalar text style (if tag = some "!" then none else tag))
      | some .openSequence =>
        skip
        keep mark (.sequence (← readFlowSequence true fuel))
      | some .openMapping =>
        skip
        keep mark (.mapping (← readFlowMapping true fuel))
      | some .blockSequence =>
        if place ≠ .flow then
          skip
          keep mark (.sequence (← readBlockSequence fuel))
        else if name.isSome || tag.isSome then keep mark (.scalar "" .plain tag)
        else failure
      | some .blockMapping =>
        if place ≠ .flow then
          skip
          keep mark (.mapping (← readBlockMapping fuel))
        else if name.isSome || tag.isSome then keep mark (.scalar "" .plain tag)
        else failure
      | _ =>
        if name.isSome || tag.isSome then keep mark (.scalar "" .plain tag)
        else failure

/-- Reads a node, which is empty in front of some tokens. -/
def readNodeUnless (place : Place) (tokens : List Token) : Nat → Reading Node
  | 0 => failure
  | fuel + 1 => do if ← isAt tokens then return .empty else readNode place fuel

def readBlockSequence : Nat → Reading (List Node)
  | 0 => failure
  | fuel + 1 => do
    if ← skipIf .dash then
      let item ← readNodeUnless .block [.dash, .blockEnd] fuel
      return item :: (← readBlockSequence fuel)
    else if ← skipIf .blockEnd then return []
    else failure

/-- Reads a sequence whose dashes stand below the key that it belongs to. -/
def readIndentless : Nat → Reading (List Node)
  | 0 => failure
  | fuel + 1 => do
    if ← skipIf .dash then
      let item ← readNodeUnless .block [.dash, .key, .value, .blockEnd] fuel
      return item :: (← readIndentless fuel)
    else return []

def readBlockMapping : Nat → Reading (List (Node × Node))
  | 0 => failure
  | fuel + 1 => do
    if ← skipIf .key then
      let key ← readNodeUnless .entry [.key, .value, .blockEnd] fuel
      let value ←
        if ← skipIf .value then readNodeUnless .entry [.key, .value, .blockEnd] fuel
        else pure .empty
      return (key, value) :: (← readBlockMapping fuel)
    else if ← skipIf .blockEnd then return []
    else failure

/-- Reads a mapping of one entry that stands in a flow sequence without braces. -/
def readPair : Nat → Reading Node
  | 0 => failure
  | fuel + 1 => do
    let key ←
      if ← isAt [.value, .comma, .closeSequence] then do
        skip
        pure .empty
      else readNode .flow fuel
    let value ←
      if ← skipIf .value then readNodeUnless .flow [.comma, .closeSequence] fuel
      else pure .empty
    return .mapping [(key, value)]

def readFlowSequence (first : Bool) : Nat → Reading (List Node)
  | 0 => failure
  | fuel + 1 => do
    if ← skipIf .closeSequence then return []
    else
      unless first do require .comma
      if ← skipIf .key then
        let pair ← readPair fuel
        return pair :: (← readFlowSequence false fuel)
      else if ← skipIf .closeSequence then return []
      else
        let item ← readNode .flow fuel
        return item :: (← readFlowSequence false fuel)

def readFlowMapping (first : Bool) : Nat → Reading (List (Node × Node))
  | 0 => failure
  | fuel + 1 => do
    if ← skipIf .closeMapping then return []
    else
      unless first do require .comma
      if ← skipIf .key then
        let key ← readNodeUnless .flow [.value, .comma, .closeMapping] fuel
        let value ←
          if ← skipIf .value then readNodeUnless .flow [.comma, .closeMapping] fuel
          else pure .empty
        return (key, value) :: (← readFlowMapping false fuel)
      else if ← skipIf .closeMapping then return []
      else
        let key ← readNode .flow fuel
        return (key, .empty) :: (← readFlowMapping false fuel)

end

/-! ### Documents -/

namespace Reading

def directives (versions handles : List (String × String)) :
    Nat → Reading (List (String × String) × Bool)
  | 0 => failure
  | fuel + 1 => do
    match ← peek with
    | some (.version major minor) =>
      skip
      if major = 1 && (minor = 1 || minor = 2) && versions.isEmpty then
        directives [("", "")] handles fuel
      else failure
    | some (.handle handle start) =>
      skip
      if (handles.lookup handle).isSome then failure
      else directives versions ((handle, start) :: handles) fuel
    | _ => return (handles, !(versions.isEmpty && handles.isEmpty))

def commonHandles : List (String × String) := [("!", "!"), ("!!", "tag:yaml.org,2002:")]

def onlyDocument : Reading Document := do
  let fuel := 4 * (← get).tokens.length + 8
  let (handles, declared) ← directives [] [] fuel
  modify fun reader => { reader with handles := handles ++ commonHandles }
  let started ← skipIf .documentStart
  if declared && !started then failure
  let root ←
    match ← peek with
    | none => if started then pure .empty else failure
    | some (.version ..) | some (.handle ..) | some .documentStart | some .documentEnd =>
      if started then pure .empty else failure
    | some _ => readNode .block fuel
  let rest := (← get).tokens
  if rest.any (· ≠ .documentEnd) then failure
  return { root, anchored := (← get).anchored }

end Reading

def Document.ofText? (text : String) : Option Document := do
  let tokens ← Token.ofText? text
  let reader : Reader :=
    { tokens, handles := [], anchors := [], places := 0, anchored := [] }
  return (← Reading.onlyDocument.run reader).1

end SessionMux.Yaml
