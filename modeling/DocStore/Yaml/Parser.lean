import DocStore.Yaml.Scanner
/-!
# Reading YAML: events

The second stage turns tokens into events: the start and end of the stream, of documents, of
sequences and of mappings, scalars and aliases. It is the grammar of YAML run as a state
machine with a stack of states to return to, the way the reference reader runs it, so that the
same texts are accepted and the same errors reported at the same places.

A missing node (a key without a value, an entry `-` with nothing after it) is an empty plain
scalar. The parser keeps the events it produced before an error: a consumer reads them in order
and meets the error only when it reads past them.
-/

namespace DocStore

namespace Yaml

/-- The kinds of event. -/
inductive EventKind where
  | streamStart
  | streamEnd
  | documentStart (implicit : Bool)
  | documentEnd (implicit : Bool)
  | aliasOf (name : String)
  | scalar (anchor tag : Option String) (text : String) (style : ScalarStyle)
  | sequenceStart (anchor tag : Option String) (flow : Bool)
  | sequenceEnd
  | mappingStart (anchor tag : Option String) (flow : Bool)
  | mappingEnd
deriving DecidableEq, Repr, Inhabited

/-- An event and where it starts. -/
structure Event where
  kind : EventKind
  start : Mark
deriving Repr, Inhabited

/-- The states of the grammar. -/
inductive ParseState where
  | streamStart
  | implicitDocumentStart
  | documentStart
  | documentContent
  | documentEnd
  | blockNode
  | blockSequenceFirstEntry
  | blockSequenceEntry
  | indentlessSequenceEntry
  | blockMappingFirstKey
  | blockMappingKey
  | blockMappingValue
  | flowSequenceFirstEntry
  | flowSequenceEntry
  | flowSequenceEntryMappingKey
  | flowSequenceEntryMappingValue
  | flowSequenceEntryMappingEnd
  | flowMappingFirstKey
  | flowMappingKey
  | flowMappingValue
  | flowMappingEmptyValue
  | finished
deriving DecidableEq, Repr, Inhabited

/-- The state of the parser. -/
structure Parser where
  tokens : Array Token
  scanError : Option SyntaxError
  pos : Nat := 0
  state : ParseState := .streamStart
  states : List ParseState := []
  marks : List Mark := []
  tagHandles : List (String × String) := []
  events : Array Event := #[]
deriving Inhabited

/-- Parsing: it may stop with a syntax error; the events made so far are kept. -/
abbrev ParseM := ExceptT SyntaxError (StateM Parser)

namespace Parser

/-- The next token; past the last one, the error that stopped the scanner. -/
def peekToken : ParseM Token := do
  let p ← get
  match p.tokens[p.pos]? with
  | some t => return t
  | none =>
    match p.scanError with
    | some e => throw e
    | none => return { kind := .streamEnd, start := {}, stop := {} }

/-- Move past the next token. -/
def skipToken : ParseM Unit := modify fun p => { p with pos := p.pos + 1 }

/-- Go to a state. -/
def goto (s : ParseState) : ParseM Unit := modify fun p => { p with state := s }

/-- Remember a state to return to. -/
def pushState (s : ParseState) : ParseM Unit := modify fun p => { p with states := s :: p.states }

/-- Return to the last remembered state. -/
def popState : ParseM Unit :=
  modify fun p => { p with state := p.states.headD .finished, states := p.states.drop 1 }

/-- Remember where a collection starts. -/
def pushMark (m : Mark) : ParseM Unit := modify fun p => { p with marks := m :: p.marks }

/-- Forget where the innermost collection starts, returning it. -/
def popMark : ParseM Mark := do
  let p ← get
  set { p with marks := p.marks.drop 1 }
  return p.marks.headD {}

/-- Stop with a parse error. -/
def fail {α : Type} (context : Option (String × Mark)) (problem : String) (mark : Mark) : ParseM α :=
  throw { problem := problem, problemMark := mark, context := context }

/-- An empty plain scalar at a position. -/
def emptyScalar (m : Mark) : Event := ⟨.scalar none none "" .plain, m⟩

/-- Whether a token kind is one of the directives. -/
def isDirective : TokenKind → Bool
  | .versionDirective _ _ | .tagDirective _ _ => true
  | _ => false

/-- Read the directives before a document, recording tag handles. At most one `%YAML`
directive may stand there, naming version 1.1 or 1.2, and a handle may be named once. -/
def processDirectives : ParseM Unit := do
  modify fun p => { p with tagHandles := [] }
  let mut versioned := false
  for _ in [0:(← get).tokens.size + 1] do
    let t ← peekToken
    match t.kind with
    | .versionDirective major minor =>
      if versioned then fail none "found duplicate %YAML directive" t.start
      if major ≠ 1 ∨ (minor ≠ 1 ∧ minor ≠ 2) then fail none "found incompatible YAML document" t.start
      versioned := true
      skipToken
    | .tagDirective h u =>
      if ((← get).tagHandles.lookup h).isSome then
        fail none "found duplicate %TAG directive" t.start
      modify fun p => { p with tagHandles := p.tagHandles ++ [(h, u)] }
      skipToken
    | _ => break

/-- The full tag of a handle and suffix. -/
def resolveTag (start : Mark) (t : Token) (handle suffix : String) : ParseM String := do
  if handle.isEmpty then return suffix
  match (← get).tagHandles.lookup handle with
  | some u => return u ++ suffix
  | none =>
    if handle = "!" then return "!" ++ suffix
    else if handle = "!!" then return "tag:yaml.org,2002:" ++ suffix
    else fail (some ("while parsing a node", start)) "found undefined tag handle" t.start

/-- A node: an alias, a scalar, or the start of a collection, with its anchor and tag. -/
def parseNode (block indentlessSequence : Bool) : ParseM Event := do
  let t ← peekToken
  match t.kind with
  | .aliasOf name =>
    popState
    skipToken
    return ⟨.aliasOf name, t.start⟩
  | _ =>
    let start := t.start
    let mut anchor : Option String := none
    let mut tag : Option String := none
    let mut tok := t
    match tok.kind with
    | .anchor a =>
      anchor := some a
      skipToken
      tok ← peekToken
      match tok.kind with
      | .tag h s =>
        tag := some (← resolveTag start tok h s)
        skipToken
        tok ← peekToken
      | _ => pure ()
    | .tag h s =>
      tag := some (← resolveTag start tok h s)
      skipToken
      tok ← peekToken
      match tok.kind with
      | .anchor a =>
        anchor := some a
        skipToken
        tok ← peekToken
      | _ => pure ()
    | _ => pure ()
    match tok.kind with
    | .blockEntry =>
      if indentlessSequence then
        goto .indentlessSequenceEntry
        return ⟨.sequenceStart anchor tag false, start⟩
    | _ => pure ()
    match tok.kind with
    | .scalar text style =>
      popState
      skipToken
      return ⟨.scalar anchor tag text style, start⟩
    | .flowSequenceStart =>
      goto .flowSequenceFirstEntry
      return ⟨.sequenceStart anchor tag true, start⟩
    | .flowMappingStart =>
      goto .flowMappingFirstKey
      return ⟨.mappingStart anchor tag true, start⟩
    | .blockSequenceStart =>
      if block then
        goto .blockSequenceFirstEntry
        return ⟨.sequenceStart anchor tag false, start⟩
    | .blockMappingStart =>
      if block then
        goto .blockMappingFirstKey
        return ⟨.mappingStart anchor tag false, start⟩
    | _ => pure ()
    if anchor.isSome ∨ tag.isSome then
      popState
      return ⟨.scalar anchor tag "" .plain, start⟩
    fail (some (if block then "while parsing a block node" else "while parsing a flow node", start))
      "did not find expected node content" tok.start

/-- The start of a document, or the end of the stream. -/
def parseDocumentStart (implicit : Bool) : ParseM Event := do
  let mut t ← peekToken
  if !implicit then
    for _ in [0:(← get).tokens.size + 1] do
      if t.kind = .documentEnd then
        skipToken
        t ← peekToken
      else break
  let isStart := t.kind = .documentStart
  let isEnd := t.kind = .streamEnd
  if implicit ∧ !isDirective t.kind ∧ !isStart ∧ !isEnd then
    processDirectives
    pushState .documentEnd
    goto .blockNode
    return ⟨.documentStart true, t.start⟩
  else if !isEnd then
    let start := t.start
    processDirectives
    let d ← peekToken
    if d.kind ≠ .documentStart then
      fail none "did not find expected <document start>" d.start
    pushState .documentEnd
    goto .documentContent
    skipToken
    return ⟨.documentStart false, start⟩
  else
    goto .finished
    skipToken
    return ⟨.streamEnd, t.start⟩

/-- The content of an explicit document, which may be empty. -/
def parseDocumentContent : ParseM Event := do
  let t ← peekToken
  match t.kind with
  | .versionDirective _ _ | .tagDirective _ _ | .documentStart | .documentEnd | .streamEnd =>
    popState
    return emptyScalar t.start
  | _ => parseNode true false

/-- The end of a document. -/
def parseDocumentEnd : ParseM Event := do
  let t ← peekToken
  let implicit := t.kind ≠ .documentEnd
  if !implicit then skipToken
  goto .documentStart
  return ⟨.documentEnd implicit, t.start⟩

/-- An entry of a block sequence. -/
def parseBlockSequenceEntry (first : Bool) : ParseM Event := do
  if first then
    let t ← peekToken
    pushMark t.start
    skipToken
  let t ← peekToken
  match t.kind with
  | .blockEntry =>
    let m := t.stop
    skipToken
    let t ← peekToken
    if t.kind ≠ .blockEntry ∧ t.kind ≠ .blockEnd then
      pushState .blockSequenceEntry
      parseNode true false
    else
      goto .blockSequenceEntry
      return emptyScalar m
  | .blockEnd =>
    popState
    let _ ← popMark
    skipToken
    return ⟨.sequenceEnd, t.start⟩
  | _ =>
    let m ← popMark
    fail (some ("while parsing a block collection", m)) "did not find expected '-' indicator" t.start

/-- An entry of a sequence written without indentation under a mapping key. -/
def parseIndentlessSequenceEntry : ParseM Event := do
  let t ← peekToken
  match t.kind with
  | .blockEntry =>
    let m := t.stop
    skipToken
    let t ← peekToken
    if t.kind ≠ .blockEntry ∧ t.kind ≠ .key ∧ t.kind ≠ .value ∧ t.kind ≠ .blockEnd then
      pushState .indentlessSequenceEntry
      parseNode true false
    else
      goto .indentlessSequenceEntry
      return emptyScalar m
  | _ =>
    popState
    return ⟨.sequenceEnd, t.start⟩

/-- A key of a block mapping. -/
def parseBlockMappingKey (first : Bool) : ParseM Event := do
  if first then
    let t ← peekToken
    pushMark t.start
    skipToken
  let t ← peekToken
  match t.kind with
  | .key =>
    let m := t.stop
    skipToken
    let t ← peekToken
    if t.kind ≠ .key ∧ t.kind ≠ .value ∧ t.kind ≠ .blockEnd then
      pushState .blockMappingValue
      parseNode true true
    else
      goto .blockMappingValue
      return emptyScalar m
  | .blockEnd =>
    popState
    let _ ← popMark
    skipToken
    return ⟨.mappingEnd, t.start⟩
  | _ =>
    let m ← popMark
    fail (some ("while parsing a block mapping", m)) "did not find expected key" t.start

/-- A value of a block mapping. -/
def parseBlockMappingValue : ParseM Event := do
  let t ← peekToken
  match t.kind with
  | .value =>
    let m := t.stop
    skipToken
    let t ← peekToken
    if t.kind ≠ .key ∧ t.kind ≠ .value ∧ t.kind ≠ .blockEnd then
      pushState .blockMappingKey
      parseNode true true
    else
      goto .blockMappingKey
      return emptyScalar m
  | _ =>
    goto .blockMappingKey
    return emptyScalar t.start

/-- An entry of a flow sequence. -/
def parseFlowSequenceEntry (first : Bool) : ParseM Event := do
  if first then
    let t ← peekToken
    pushMark t.start
    skipToken
  let mut t ← peekToken
  if t.kind ≠ .flowSequenceEnd then
    if !first then
      if t.kind = .flowEntry then
        skipToken
        t ← peekToken
      else
        let m ← popMark
        fail (some ("while parsing a flow sequence", m)) "did not find expected ',' or ']'" t.start
    if t.kind = .key then
      goto .flowSequenceEntryMappingKey
      skipToken
      return ⟨.mappingStart none none true, t.start⟩
    else if t.kind ≠ .flowSequenceEnd then
      pushState .flowSequenceEntry
      return ← parseNode false false
  popState
  let _ ← popMark
  skipToken
  return ⟨.sequenceEnd, t.start⟩

/-- The key of a single-pair mapping inside a flow sequence. -/
def parseFlowSequenceEntryMappingKey : ParseM Event := do
  let t ← peekToken
  if t.kind ≠ .value ∧ t.kind ≠ .flowEntry ∧ t.kind ≠ .flowSequenceEnd then
    pushState .flowSequenceEntryMappingValue
    parseNode false false
  else
    goto .flowSequenceEntryMappingValue
    return emptyScalar t.start

/-- The value of a single-pair mapping inside a flow sequence. -/
def parseFlowSequenceEntryMappingValue : ParseM Event := do
  let mut t ← peekToken
  if t.kind = .value then
    skipToken
    t ← peekToken
    if t.kind ≠ .flowEntry ∧ t.kind ≠ .flowSequenceEnd then
      pushState .flowSequenceEntryMappingEnd
      return ← parseNode false false
  goto .flowSequenceEntryMappingEnd
  return emptyScalar t.start

/-- The end of a single-pair mapping inside a flow sequence. -/
def parseFlowSequenceEntryMappingEnd : ParseM Event := do
  let t ← peekToken
  goto .flowSequenceEntry
  return ⟨.mappingEnd, t.start⟩

/-- A key of a flow mapping. -/
def parseFlowMappingKey (first : Bool) : ParseM Event := do
  if first then
    let t ← peekToken
    pushMark t.start
    skipToken
  let mut t ← peekToken
  if t.kind ≠ .flowMappingEnd then
    if !first then
      if t.kind = .flowEntry then
        skipToken
        t ← peekToken
      else
        let m ← popMark
        fail (some ("while parsing a flow mapping", m)) "did not find expected ',' or '\x7d'" t.start
    if t.kind = .key then
      skipToken
      let k ← peekToken
      if k.kind ≠ .value ∧ k.kind ≠ .flowEntry ∧ k.kind ≠ .flowMappingEnd then
        pushState .flowMappingValue
        return ← parseNode false false
      else
        goto .flowMappingValue
        return emptyScalar k.start
    else if t.kind ≠ .flowMappingEnd then
      pushState .flowMappingEmptyValue
      return ← parseNode false false
  popState
  let _ ← popMark
  skipToken
  return ⟨.mappingEnd, t.start⟩

/-- A value of a flow mapping; `empty` when the key stood alone. -/
def parseFlowMappingValue (empty : Bool) : ParseM Event := do
  let mut t ← peekToken
  if empty then
    goto .flowMappingKey
    return emptyScalar t.start
  if t.kind = .value then
    skipToken
    t ← peekToken
    if t.kind ≠ .flowEntry ∧ t.kind ≠ .flowMappingEnd then
      pushState .flowMappingKey
      return ← parseNode false false
  goto .flowMappingKey
  return emptyScalar t.start

/-- The next event. -/
def step : ParseM Event := do
  match (← get).state with
  | .streamStart =>
    let t ← peekToken
    if t.kind ≠ .streamStart then fail none "did not find expected <stream-start>" t.start
    goto .implicitDocumentStart
    skipToken
    return ⟨.streamStart, t.start⟩
  | .implicitDocumentStart => parseDocumentStart true
  | .documentStart => parseDocumentStart false
  | .documentContent => parseDocumentContent
  | .documentEnd => parseDocumentEnd
  | .blockNode => parseNode true false
  | .blockSequenceFirstEntry => parseBlockSequenceEntry true
  | .blockSequenceEntry => parseBlockSequenceEntry false
  | .indentlessSequenceEntry => parseIndentlessSequenceEntry
  | .blockMappingFirstKey => parseBlockMappingKey true
  | .blockMappingKey => parseBlockMappingKey false
  | .blockMappingValue => parseBlockMappingValue
  | .flowSequenceFirstEntry => parseFlowSequenceEntry true
  | .flowSequenceEntry => parseFlowSequenceEntry false
  | .flowSequenceEntryMappingKey => parseFlowSequenceEntryMappingKey
  | .flowSequenceEntryMappingValue => parseFlowSequenceEntryMappingValue
  | .flowSequenceEntryMappingEnd => parseFlowSequenceEntryMappingEnd
  | .flowMappingFirstKey => parseFlowMappingKey true
  | .flowMappingKey => parseFlowMappingKey false
  | .flowMappingValue => parseFlowMappingValue false
  | .flowMappingEmptyValue => parseFlowMappingValue true
  | .finished => fail none "no more events" {}

/-- Every event up to the end of the stream. Each event consumes a token or ends a
collection opened by an earlier token, so twice the number of tokens bounds the steps. -/
def run : ParseM Unit := do
  for _ in [0:2 * (← get).tokens.size + 4] do
    if (← get).state = .finished then break
    let e ← step
    modify fun p => { p with events := p.events.push e }

end Parser

/-- The events of a text, and the syntax error that stopped the reading, if any. -/
def parseEvents (text : String) : Array Event × Option SyntaxError :=
  let (tokens, err) := tokenize text
  let (r, p) := Parser.run.run.run { tokens := tokens, scanError := err }
  match r with
  | .ok () => (p.events, none)
  | .error e => (p.events, some e)

end Yaml

end DocStore
