import ResourceRouting.Config.Yaml.Scalar

/-!
# Yaml — documents of mappings and sequences

A node is a scalar, a collection in brackets, or a block: a mapping or a sequence whose entries
stand one below the other in one column, further to the right than what holds them. A sequence may
stand in the same column as the key that holds it. No mapping has a key twice.
-/

namespace ResourceRouting
namespace Yaml

/-! ## White space -/

/-- What was skipped: whether a line end was among it, and whether a tab stands in the blanks
before the place on its line. -/
structure Skipped where
  place : Place
  lineEnd : Bool := false
  tab : Bool := false

/-- Skips white space and comments; a comment begins behind a blank or on a new line. -/
def skipFrom (comment spaced : Bool) (s : Skipped) : List Char → Skipped
  | [] => { s with place := { s.place with rest := [] } }
  | '\n' :: cs =>
      skipFrom false true ⟨{ s.place with column := 0, rest := cs }, true, false⟩ cs
  | c :: cs =>
      let next : Place := { s.place with column := s.place.column + 1, rest := cs }
      if comment then skipFrom true true { s with place := next } cs
      else if isBlank c then
        skipFrom false true { s with place := next, tab := s.tab || c = '\t' } cs
      else if c = '#' && spaced then skipFrom true true { s with place := next } cs
      else { s with place := { s.place with rest := c :: cs } }

def skip (p : Place) : Skipped := skipFrom false (p.column = 0) { place := p } p.rest

/-! ## Properties of nodes -/

/-- The anchor and the tag in front of a node. -/
structure Properties where
  anchor? : Option String := none
  tag? : Option String := none

/-- Takes a word off the front. -/
def takeWord (flow : Bool) (p : Place) : String × Place :=
  let word := p.rest.takeWhile fun c => !isBlank c && c != '\n' && !(flow && isFlowMark c)
  (String.ofList word, p.drop word.length)

/-- Reads the properties in front of a node, each of which may stand once. -/
def properties (flow : Bool) : Nat → Properties → Skipped → Properties × Skipped
  | 0, props, s => (props, s)
  | fuel + 1, props, s =>
      let goOn (props : Properties) (p : Place) : Properties × Skipped :=
        let t := skip p
        properties flow fuel props { t with lineEnd := s.lineEnd || t.lineEnd }
      match s.place.rest with
      | '&' :: _ =>
          let (word, p) := takeWord flow s.place.step
          goOn { props with anchor? := some word } p
      | '!' :: _ =>
          let (word, p) := takeWord flow s.place
          goOn { props with tag? := some word } p
      | _ => (props, s)

/-- The value of a plain scalar under a tag. A tag of the core schema asks for one kind of value,
and any other one for a text. -/
def taggedValue? (tag? : Option String) (s : String) : Option Json :=
  match tag?, meaning s with
  | none, _ => valueOf? s
  | some "!!bool", .bool b => some (.bool b)
  | some "!!int", .int n => some (.number (.int n))
  | some "!!float", .real x? => x?.map fun x => .number (.double x)
  | some "!!float", .int _ => (decimal? s.toList).map fun x => .number (.double x)
  | some "!!null", _ | some "!!bool", _ | some "!!int", _ | some "!!float", _ => some .null
  | some _, _ => some (.string s)

/-- Keeps a node under its anchor. -/
def anchored (props : Properties) (t : Json × Place) : Json × Place :=
  match props.anchor? with
  | some name => (t.1, { t.2 with anchors := (name, t.1) :: t.2.anchors })
  | none => t

/-! ## Collections in brackets -/

abbrev Members := List (String × Json)

/-- Adds a member, unless the mapping has one of that name. -/
def addMember (name : String) (value : Json) (ms : Members) : Option Members :=
  if (ms.lookup name).isSome then none else some (ms ++ [(name, value)])

mutual

/-- A node within brackets; none before a comma or a closing bracket. -/
def flowNode : Nat → Place → Option (Json × Place)
  | 0, _ => none
  | fuel + 1, p =>
      let (props, s) := properties true fuel {} (skip p)
      let p := s.place
      let node? : Option (Json × Place) :=
        match p.rest with
        | '*' :: _ =>
            let (name, q) := takeWord true p.step
            (p.anchors.lookup name).map fun v => (v, q)
        | '[' :: _ => (flowItems fuel [] p.step).map fun t => (.array t.1, t.2)
        | '\x7b' :: _ => (flowMembers fuel [] p.step).map fun t => (Json.ofMembers t.1, t.2)
        | '"' :: _ | '\'' :: _ => (quoted p).map fun t => (.string t.1, t.2)
        | cs =>
            let absent := cs.head?.any fun c => c = ',' || c = ']' || c = '\x7d'
            if absent || atValueMark true cs then
              (taggedValue? props.tag? "").map fun v => (v, p)
            else do
              let (text, p) ← plain true false 0 p
              return (← taggedValue? props.tag? text, p)
      node?.map (anchored props)

/-- The name of a member within brackets. -/
def flowName : Nat → Place → Option (String × Place)
  | 0, _ => none
  | _ + 1, p =>
      match p.rest with
      | '"' :: _ | '\'' :: _ => quoted p
      | _ => do
          let (text, p) ← plain true false 0 p
          return (← nameOf? text, p)

/-- The rest of a sequence in brackets. An entry may be a mapping of one member. -/
def flowItems : Nat → List Json → Place → Option (List Json × Place)
  | 0, _, _ => none
  | fuel + 1, acc, p =>
      let p := (skip p).place
      match p.rest with
      | ']' :: _ => some (acc.reverse, p.step)
      | ',' :: _ => none
      | _ => do
          -- a name with a colon is a mapping of its own within a sequence
          let (v, q) ←
            match flowPair fuel p with
            | some (name, v, q) => some (.object [(name, v)], q)
            | none => flowNode fuel p
          let q := (skip q).place
          match q.rest with
          | ',' :: _ => flowItems fuel (v :: acc) q.step
          | ']' :: _ => return ((v :: acc).reverse, q.step)
          | _ => none

/-- A name with a colon and a value. -/
def flowPair : Nat → Place → Option (String × Json × Place)
  | 0, _ => none
  | fuel + 1, p => do
      let isQuoted := p.rest.head?.any fun c => c = '"' || c = '\''
      let (name, q) ← flowName fuel p
      let q := (skip q).place
      match q.rest with
      | ':' :: cs =>
          if isQuoted || atValueMark true (':' :: cs) then
            let (v, q) ← flowNode fuel q.step
            return (name, v, q)
          else none
      | _ => none

/-- The rest of a mapping in braces. A name alone has the value `null`. -/
def flowMembers : Nat → Members → Place → Option (Members × Place)
  | 0, _, _ => none
  | fuel + 1, ms, p =>
      let p := (skip p).place
      match p.rest with
      | '\x7d' :: _ => some (ms, p.step)
      | _ => do
          let (name, v, q) ←
            match flowPair fuel p with
            | some t => some t
            | none => (flowName fuel p).map fun t => (t.1, .null, t.2)
          let ms ← addMember name v ms
          let q := (skip q).place
          match q.rest with
          | ',' :: _ => flowMembers fuel ms q.step
          | '\x7d' :: _ => return (ms, q.step)
          | _ => none

end

/-! ## Blocks -/

/-- Whether an entry of a block sequence begins here. -/
def atEntry : List Char → Bool
  | '-' :: cs => atGap cs
  | _ => false

/-- The key that begins here, if one does: a scalar on one line with a colon behind it. The place
that is answered is behind the colon. -/
def blockName? (p : Place) : Option (Option String × Place) := do
  let (name?, q) ←
    match p.rest with
    | '"' :: _ | '\'' :: _ => (quoted p).map fun t => (some t.1, t.2)
    | _ => (plain false true 0 p).map fun t => (nameOf? t.1, t.2)
  let s := skip q
  -- a key has one line
  if s.lineEnd || (p.rest.take (p.rest.length - q.rest.length)).contains '\n' then none
  if atValueMark false s.place.rest then some (name?, s.place.step) else none

mutual

/-- A node at column `least` or beyond; one further to the left is not its own, and the node is
`null` then. A block may begin here only where `fresh` or on a new line. -/
def blockNode : Nat → Nat → Bool → Place → Option (Json × Place)
  | 0, _, _, _ => none
  | fuel + 1, least, fresh, p =>
      let (props, s) := properties false fuel {} (skip p)
      -- behind a line end a block may begin, whatever stood before it
      let fresh := fresh || s.lineEnd
      let q := s.place
      if q.rest.isEmpty || (s.lineEnd && q.column < least) then
        (taggedValue? props.tag? "").map fun v => anchored props (v, p)
      else if s.lineEnd && s.tab then none
      else
        let node? : Option (Json × Place) :=
          match q.rest with
          | '*' :: _ =>
              let (name, q) := takeWord false q.step
              (q.anchors.lookup name).map fun v => (v, q)
          | '|' :: _ => (block true least q).map fun t => (.string t.1, t.2)
          | '>' :: _ => (block false least q).map fun t => (.string t.1, t.2)
          | cs =>
              if fresh && atEntry cs then
                (entries fuel q.column [] q).map fun t => (.array t.1, t.2)
              else if fresh && (blockName? q).isSome then
                (members fuel q.column [] q).map fun t => (Json.ofMembers t.1, t.2)
              else
                match cs with
                | '[' :: _ | '\x7b' :: _ => flowNode fuel q
                | '"' :: _ | '\'' :: _ => (quoted q).map fun t => (.string t.1, t.2)
                | _ => do
                    let (text, q) ← plain false false least q
                    return (← taggedValue? props.tag? text, q)
        node?.map (anchored props)

/-- The entries of a block sequence from the one that begins here on. -/
def entries : Nat → Nat → List Json → Place → Option (List Json × Place)
  | 0, _, _, _ => none
  | fuel + 1, column, acc, p => do
      let (v, q) ← blockNode fuel (column + 1) true p.step
      let s := skip q
      if !s.place.rest.isEmpty && s.place.column = column && atEntry s.place.rest then
        entries fuel column (v :: acc) s.place
      else if s.place.rest.isEmpty || s.place.column ≤ column then
        return ((v :: acc).reverse, s.place)
      else none

/-- The members of a block mapping from the one that begins here on. -/
def members : Nat → Nat → Members → Place → Option (Members × Place)
  | 0, _, _, _ => none
  | fuel + 1, column, ms, p => do
      let (name?, q) ← blockName? p
      let name ← name?
      let s := skip q
      let (v, q) ←
        -- a sequence may stand in the column of its key
        if s.lineEnd && s.place.column = column && atEntry s.place.rest then
          (entries fuel column [] s.place).map fun t => (Json.array t.1, t.2)
        else blockNode fuel (column + 1) false q
      let ms ← addMember name v ms
      let s := skip q
      if s.place.rest.isEmpty || s.place.column < column then return (ms, s.place)
      else if s.place.column = column then members fuel column ms s.place
      else none

end

/-! ## Documents -/

/-- Whether a line is a mark between documents. -/
def isMark (mark : String) (line : List Char) : Bool :=
  mark.toList.isPrefixOf line && atGap (line.drop 3)

def isIdleLine (line : List Char) : Bool :=
  match line.dropWhile isBlank with
  | [] => true
  | c :: _ => c = '#'

/-- The lines of the only document of a text: without the directives and the mark in front of it
and the mark behind it, and whether it was opened by a mark. -/
def documentLines? (lines : List (List Char)) : Option (Bool × List (List Char)) := do
  let front := lines.takeWhile fun l => isIdleLine l || l.head? == some '%'
  let rest := lines.drop front.length
  let opened := rest.head?.any (isMark "---")
  if !opened && front.any (·.head? == some '%') then none
  let body :=
    match rest with
    | line :: more =>
        if opened then (List.replicate 3 ' ' ++ line.drop 3) :: more else rest
    | [] => []
  let mine := body.takeWhile fun l => !isMark "---" l && !isMark "..." l
  match body.drop mine.length with
  | [] => some (opened, mine)
  | mark :: after =>
      if isMark "..." mark && after.all isIdleLine then some (opened, mine) else none

/-- Line ends of any sort as one. -/
def unifyLineEnds : List Char → List Char
  | '\r' :: '\n' :: cs => '\n' :: unifyLineEnds cs
  | '\r' :: cs => '\n' :: unifyLineEnds cs
  | c :: cs => c :: unifyLineEnds cs
  | [] => []

/-- The value that a text writes. A text without any document is an empty mapping. -/
def read? (s : String) : Option Json := do
  let (opened, lines) ← documentLines? (Text.cutChars '\n' (unifyLineEnds s.toList))
  if !opened && lines.all isIdleLine then return .object []
  let cs := Text.glueChars '\n' lines
  let (v, p) ← blockNode (2 * cs.length + 8) 0 (!opened) { rest := cs }
  if (skip p).place.rest.isEmpty then return v else none

end Yaml
end ResourceRouting
