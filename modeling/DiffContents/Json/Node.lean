import DiffContents.Json.Token

/-!
# Located JSON values

A `Node` is a JSON value together with the places a reader needs in order to say where it went
wrong.  A text that is not JSON has nodes too: where it cannot go on stands a node without a
value, or a list of elements or members that does not end well.

* `Node.ofText` is the node of a text;
* `Node.json?` forgets the places: it is the value of a node, if all of it can be read;
* `Node.skip` and `Node.check` are the two ways of going over a value without using it.  Passing
  over a value is less strict, and does not limit how deeply values nest.
-/

namespace DiffContents

namespace Json

/-- A value that is neither an array nor an object. -/
inductive Scalar where
  | null
  | bool (value : Bool)
  | number (value : Except Problem Number)
  | string (value : Except Problem String)
deriving Repr, Inhabited

/-- How a list of elements or members ends. -/
inductive Ending where
  /-- With its closing bracket, after which the given place is. -/
  | closed (stop : Mark)
  /-- Not well. -/
  | broken (flaw : Flaw)
deriving Repr, Inhabited

/-- The name of a member. -/
structure Name where
  value : Except Problem String
  /-- The place after it. -/
  stop : Mark
  /-- The tokens after it. -/
  following : List Token
deriving Repr, Inhabited

/-- **A JSON value with its places**, and with the tokens that follow it. -/
inductive Node where
  /-- There is no value.  `stray` is where the token that stands there instead is noticed, if it
  is a token no value begins with. -/
  | missing (flaw : Flaw) (stray : Option Mark)
  | scalar (value : Scalar) (start stop : Mark) (following : List Token)
  | array (start : Mark) (elements : List Node) (ending : Ending) (following : List Token)
  | object (start : Mark) (members : List (Name × Node)) (ending : Ending)
      (following : List Token)
deriving Repr, Inhabited

namespace Node

/-- The tokens after a value. -/
def following : Node → List Token
  | missing _ _ => []
  | scalar _ _ _ following | array _ _ _ following | object _ _ _ following => following

/-- What may stand where an element or a member is looked for. -/
inductive Turn where
  /-- Nothing was read yet, so the list may end. -/
  | opening
  /-- A comma was read, so the list must go on. -/
  | afterComma
deriving DecidableEq, Repr

mutual

/-- The value at the beginning of a list of tokens, and the tokens after it.  The first argument
bounds the number of steps. -/
def read : Nat → List Token → Node × List Token
  | 0, _ | _, [] => (missing (.plain .endOfValue .first) none, [])
  | fuel + 1, t :: ts =>
    match t.kind with
    | .null => (scalar .null t.start t.stop ts, ts)
    | .bool b => (scalar (.bool b) t.start t.stop ts, ts)
    | .number n => (scalar (.number n) t.start t.stop ts, ts)
    | .string s => (scalar (.string s) t.start t.stop ts, ts)
    | .openArray =>
      let (elements, ending, rest) := readElements fuel .opening ts
      (array t.start elements ending rest, rest)
    | .openObject =>
      let (members, ending, rest) := readMembers fuel .opening ts
      (object t.start members ending rest, rest)
    | .brokenString flaw => (missing flaw none, [])
    | .broken flaw => (missing flaw (some t.noticed), [])
    | .finish => (missing (.plain .endOfValue t.start) none, [])
    | .closeArray | .closeObject | .comma | .colon =>
      (missing (.plain .expectedValue t.noticed) (some t.noticed), [])

/-- The elements of an array, up to its closing bracket. -/
def readElements : Nat → Turn → List Token → List Node × Ending × List Token
  | 0, _, _ | _, _, [] => ([], .broken (.plain .endOfList .first), [])
  | fuel + 1, turn, t :: ts =>
    match turn, t.kind with
    | .opening, .closeArray => ([], .closed t.stop, ts)
    | .opening, .finish => ([], .broken (.plain .endOfList t.start), [])
    | .afterComma, .closeArray =>
      ([], .broken ⟨⟨.trailingComma, t.noticed⟩, ⟨.expectedValue, t.noticed⟩⟩, [])
    | _, _ =>
      match read fuel (t :: ts) with
      | (missing flaw stray, _) => ([missing flaw stray], .broken flaw, [])
      | (n, []) => ([n], .broken (.plain .endOfList .first), [])
      | (n, t :: ts) =>
        match t.kind with
        | .comma =>
          let (ns, ending, rest) := readElements fuel .afterComma ts
          (n :: ns, ending, rest)
        | .closeArray => ([n], .closed t.stop, ts)
        | .finish => ([n], .broken (.plain .endOfList t.start), [])
        | _ => ([n], .broken (.plain .expectedListEnd t.noticed), [])

/-- The members of an object, up to its closing bracket. -/
def readMembers : Nat → Turn → List Token → List (Name × Node) × Ending × List Token
  | 0, _, _ | _, _, [] => ([], .broken (.plain .endOfObject .first), [])
  | fuel + 1, turn, t :: ts =>
    match turn, t.kind with
    | .opening, .closeObject => ([], .closed t.stop, ts)
    | .opening, .finish => ([], .broken (.plain .endOfObject t.start), [])
    | .afterComma, .closeObject =>
      ([], .broken ⟨⟨.trailingComma, t.noticed⟩, ⟨.keyNotString, t.noticed⟩⟩, [])
    | .afterComma, .finish =>
      ([], .broken ⟨⟨.endOfValue, t.start⟩, ⟨.endOfObject, t.start⟩⟩, [])
    | _, .brokenString flaw => ([], .broken flaw, [])
    | _, .string value =>
      let name : Name := ⟨value, t.stop, ts⟩
      match readValue fuel ts with
      | (missing flaw stray, _) => ([(name, missing flaw stray)], .broken flaw, [])
      | (n, []) => ([(name, n)], .broken (.plain .endOfObject .first), [])
      | (n, t :: ts) =>
        match t.kind with
        | .comma =>
          let (ms, ending, rest) := readMembers fuel .afterComma ts
          ((name, n) :: ms, ending, rest)
        | .closeObject => ([(name, n)], .closed t.stop, ts)
        | .finish => ([(name, n)], .broken (.plain .endOfObject t.start), [])
        | _ => ([(name, n)], .broken (.plain .expectedObjectEnd t.noticed), [])
    | _, _ => ([], .broken (.plain .keyNotString t.noticed), [])

/-- The value of a member, with the colon before it. -/
def readValue : Nat → List Token → Node × List Token
  | 0, _ | _, [] => (missing (.plain .endOfObject .first) none, [])
  | fuel + 1, t :: ts =>
    match t.kind with
    | .colon => read fuel ts
    | .finish => (missing (.plain .endOfObject t.start) none, [])
    | _ => (missing (.plain .expectedColon t.noticed) none, [])

end

/-- The node of a list of tokens.  Every step is paid for by a token, and no token pays for more
than two. -/
def ofTokens (ts : List Token) : Node := (read (2 * ts.length + 2) ts).1

/-- **The node of a text.** -/
def ofText (s : String) : Node := ofTokens (tokens s)

/-- The value a scalar has, if it can be read. -/
def scalarJson? : Scalar → Option Json
  | .null => some .null
  | .bool b => some (.bool b)
  | .number (.ok n) => some (.number n)
  | .string (.ok s) => some (.string s)
  | .number (.error _) | .string (.error _) => none

mutual

/-- **The value of a node** without its places, if all of it can be read. -/
def json? : Node → Option Json
  | missing _ _ => none
  | scalar value _ _ _ => scalarJson? value
  | array _ elements (.closed _) _ => (elementsJson? elements).map .array
  | object _ members (.closed _) _ => (membersJson? members).map .object
  | array _ _ (.broken _) _ | object _ _ (.broken _) _ => none

/-- The values of a list of elements. -/
def elementsJson? : List Node → Option (List Json)
  | [] => some []
  | n :: ns => do return (← json? n) :: (← elementsJson? ns)

/-- The values of a list of members. -/
def membersJson? : List (Name × Node) → Option (List (String × Json))
  | [] => some []
  | (name, n) :: ms =>
    match name.value with
    | .error _ => none
    | .ok key => do return (key, ← json? n) :: (← membersJson? ms)

end

/-- Nothing, or the problem of an ending. -/
def endingProblem (f : Flaw → Problem) : Ending → Except Problem Unit
  | .closed _ => .ok ()
  | .broken flaw => .error (f flaw)

mutual

/-- **Passes over a value**, which may nest as deeply as it likes. -/
def skip : Node → Except Problem Unit
  | missing flaw _ => .error flaw.skipping
  | scalar _ _ _ _ => .ok ()
  | array _ elements ending _ => do
    skipElements elements
    endingProblem Flaw.skipping ending
  | object _ members ending _ => do
    skipMembers members
    endingProblem Flaw.skipping ending

/-- Passes over elements. -/
def skipElements : List Node → Except Problem Unit
  | [] => .ok ()
  | n :: ns => do
    skip n
    skipElements ns

/-- Passes over members. -/
def skipMembers : List (Name × Node) → Except Problem Unit
  | [] => .ok ()
  | (_, n) :: ms => do
    skip n
    skipMembers ms

end

/-- Whether a scalar can be read. -/
def checkScalar : Scalar → Except Problem Unit
  | .null | .bool _ | .number (.ok _) | .string (.ok _) => .ok ()
  | .number (.error p) | .string (.error p) => .error p

mutual

/-- **Reads all of a value**, which may nest as many levels deeper as the first argument says. -/
def check (depth : Nat) : Node → Except Problem Unit
  | missing flaw _ => .error flaw.reading
  | scalar value _ _ _ => checkScalar value
  | array start elements ending _ =>
    if depth = 0 then .error ⟨.tooDeep, start.plus 1⟩
    else do
      checkElements (depth - 1) elements
      endingProblem Flaw.reading ending
  | object start members ending _ =>
    if depth = 0 then .error ⟨.tooDeep, start.plus 1⟩
    else do
      checkMembers (depth - 1) members
      endingProblem Flaw.reading ending

/-- Reads all of a list of elements. -/
def checkElements (depth : Nat) : List Node → Except Problem Unit
  | [] => .ok ()
  | n :: ns => do
    check depth n
    checkElements depth ns

/-- Reads all of a list of members. -/
def checkMembers (depth : Nat) : List (Name × Node) → Except Problem Unit
  | [] => .ok ()
  | (name, n) :: ms => do
    let _ ← name.value
    check depth n
    checkMembers depth ms

end

end Node

/-- **The value of a text**, if it is JSON. -/
def parse? (s : String) : Option Json :=
  let node := Node.ofText s
  match node.following with
  | ⟨_, _, .finish, _⟩ :: _ => node.json?
  | _ => none

end Json

end DiffContents
