import DiffContents.Json.Node

/-!
# Reading values of a given form

A `Reader α` makes a value of type `α` out of a node, or says what is wrong with it.

There are two places a node may be read at.  Normally it is read as the text goes by, so that the
first thing wrong in the text is what is reported.  But what a tag decides the form of can only be
read when the tag is known: all of it is taken in first, and then read out of that store, where a
problem no longer has a place of its own.  Such a problem is placed by the nearest array or object
that is being read as the text goes by.

* `structure` forms are read from an object, or from an array of their fields in order;
* `choice` forms are read from an object with one member, or from a name alone;
* `tagged` forms are read from an object with a member `kind`, or from an array that begins with
  the tag.
-/

namespace DiffContents

namespace Json

/-- **What is wrong with a node.** -/
inductive Failure where
  /-- A problem with a place. -/
  | placed (problem : Problem)
  /-- A cause without a place, and the tokens after what it was noticed in. -/
  | unplaced (cause : Cause) (following : List Token)
deriving Repr, Inhabited

namespace Failure

/-- The cause of a failure. -/
def cause : Failure → Cause
  | placed p => p.cause
  | unplaced cause _ => cause

/-- Where an array that is left early puts a cause: after its closing bracket or the comma that
comes next, and otherwise before what comes next. -/
def leaveArray : List Token → Mark
  | [] => .first
  | t :: ts =>
    match t.kind, ts with
    | .closeArray, _ => t.stop
    | .comma, t' :: _ => t'.start
    | _, _ => t.start

/-- Where an object that is left early puts a cause: after its closing bracket if it comes next,
and otherwise before what comes next. -/
def leaveObject : List Token → Mark
  | [] => .first
  | t :: _ =>
    match t.kind with
    | .closeObject => t.stop
    | _ => t.start

/-- A failure as it leaves an array. -/
def fromArray : Failure → Failure
  | placed p => placed p
  | unplaced cause following => placed ⟨cause, leaveArray following⟩

/-- A failure as it leaves an object. -/
def fromObject : Failure → Failure
  | placed p => placed p
  | unplaced cause following => placed ⟨cause, leaveObject following⟩

/-- A failure as it leaves the store: its place is forgotten. -/
def fromStore (following : List Token) (f : Failure) : Failure := unplaced f.cause following

/-- The failure as it is reported. -/
def toReadError : Failure → ReadError
  | placed p => ⟨p.cause, some p.mark⟩
  | unplaced cause _ => ⟨cause, none⟩

end Failure

/-- **Where a node is read.** -/
structure Site where
  /-- How many levels deeper values may nest. -/
  depth : Nat
  /-- The node is read out of the store, and so known to be free of flaws. -/
  stored : Bool
deriving DecidableEq, Repr, Inhabited

/-- **A way of reading a node as a value.** -/
abbrev Reader (α : Type) := Site → Node → Except Failure α

namespace Reader

variable {α β σ : Type}

/-- A problem with a place as a failure. -/
def lift (r : Except Problem α) : Except Failure α := r.mapError .placed

/-- The site inside a bracket. -/
def enter (site : Site) (start : Mark) : Except Failure Site :=
  if site.stored then .ok site
  else if site.depth = 0 then .error (.placed ⟨.tooDeep, start.plus 1⟩)
  else .ok ⟨site.depth - 1, false⟩

/-- Takes a value in, to be read later. -/
def store (site : Site) (n : Node) : Except Failure Unit :=
  if site.stored then .ok () else lift (n.check site.depth)

/-- What a scalar is when something else is wanted. -/
def found : Scalar → Except Problem Found
  | .null => .ok .null
  | .bool b => .ok (.boolean b)
  | .number (.ok (.int n)) => .ok (.integer n)
  | .number (.ok (.float f)) => .ok (.float f)
  | .string (.ok s) => .ok (.string s)
  | .number (.error p) | .string (.error p) => .error p

/-- The failure of a node that is not of the form wanted. -/
def mismatch (wanted : String) : Node → Failure
  | .missing flaw _ => .placed flaw.reading
  | .scalar value _ stop _ =>
    match found value with
    | .ok found => .placed ⟨.wrongType found wanted, stop⟩
    | .error p => .placed p
  | .array start _ _ _ => .placed ⟨.wrongType .sequence wanted, start⟩
  | .object start _ _ _ => .placed ⟨.wrongType .map wanted, start⟩

/-- A text. -/
def string : Reader String
  | _, .scalar (.string s) _ _ _ => lift s
  | _, n => .error (mismatch "a string" n)

/-- A natural number below a bound. -/
def natural (bound : Nat) (wanted : String) : Reader Nat
  | _, .scalar (.number (.ok (.int n))) _ stop _ =>
    if n < 0 || (bound : Int) ≤ n then
      .error (.placed ⟨.wrongValue (.integer n) wanted, stop⟩)
    else .ok n.toNat
  | _, n => .error (mismatch wanted n)

/-- A number of 32 bits. -/
def uint32 : Reader UInt32 := fun site n => UInt32.ofNat <$> natural UInt32.size "u32" site n

/-- A number of 64 bits. -/
def uint64 : Reader UInt64 := fun site n => UInt64.ofNat <$> natural UInt64.size "usize" site n

/-- A value that may be null. -/
def option (r : Reader α) : Reader (Option α)
  | _, .scalar .null _ _ _ => .ok none
  | site, n => some <$> r site n

/-- The elements of an array, each read in the same way. -/
def elements (r : Reader α) (site : Site) : List Node → Except Failure (List α)
  | [] => .ok []
  | n :: ns => do return (← r site n) :: (← elements r site ns)

/-- The end of an array or object. -/
def close (e : Ending) : Except Failure Unit := lift (Node.endingProblem Flaw.reading e)

/-- A list. -/
def list (r : Reader α) : Reader (List α)
  | site, .array start ns ending _ => do
    let site ← enter site start
    let as ← (elements r site ns).mapError Failure.fromArray
    close ending
    return as
  | _, n => .error (mismatch "a sequence" n)

/-! ## Structures -/

/-- **A field of a structure**, over the type `σ` of what has been read so far. -/
structure Field (σ : Type) where
  name : String
  /-- The field may be left out at the end of an array. -/
  optional : Bool
  /-- The field has been read. -/
  given : σ → Bool
  /-- Reads the field. -/
  read : Site → Node → σ → Except Failure σ

/-- A field that is kept in an optional place of what has been read so far. -/
def Field.of (name : String) (optional : Bool) (get : σ → Option α) (set : α → σ → σ)
    (r : Reader α) : Field σ where
  name := name
  optional := optional
  given s := (get s).isSome
  read site n s := do return set (← r site n) s

/-- **The form of a structure.** -/
structure Form (σ α : Type) where
  /-- What the structure is called. -/
  title : String
  /-- Its fields, in order. -/
  fields : List (Field σ)
  /-- Nothing has been read. -/
  blank : σ
  /-- The structure made of what has been read, or what is missing. -/
  build : σ → Except Cause α

/-- A field that has to be there. -/
def need (name : String) : Option α → Except Cause α
  | some a => .ok a
  | none => .error (.missingField name)

/-- How many of something. -/
def counted (n : Nat) (noun : String) : String :=
  toString n ++ " " ++ noun ++ (if n = 1 then "" else "s")

/-- Reads the members of an object.  A member that is no field is passed over. -/
def members (fields : List (Field σ)) (site : Site) :
    List (Name × Node) → σ → Except Failure σ
  | [], s => .ok s
  | (name, n) :: rest, s => do
    let key ← lift name.value
    match fields.find? (·.name = key) with
    | none =>
      lift n.skip
      members fields site rest s
    | some field =>
      if field.given s then .error (.unplaced (.repeatedField key) name.following)
      else members fields site rest (← field.read site n s)

/-- What is wrong when an array goes on after its last field. -/
def excess (site : Site) (taken : Nat) (last : Option Node) (rest : List Node) :
    Except Failure Unit :=
  if site.stored then
    if rest.isEmpty then .ok ()
    else .error (.unplaced (.wrongLength (taken + rest.length)
      (counted taken "element" ++ " in sequence")) [])
  else
    match last.map Node.following with
    | some (t :: ts) =>
      match t.kind, ts with
      | .closeArray, _ => .ok ()
      | .comma, t' :: _ =>
        match t'.kind with
        | .closeArray => .error (.placed ⟨.trailingComma, t'.noticed⟩)
        | _ => .error (.placed ⟨.trailingText, t'.noticed⟩)
      | .finish, _ => .error (.placed ⟨.endOfList, t.start⟩)
      | _, _ => .error (.placed ⟨.trailingText, t.noticed⟩)
    | _ => .ok ()

/-- Reads the fields of a structure from the elements of an array; `taken` of them have been read
before, the last one from `last`. -/
def fieldsInOrder (title : String) (count : Nat) (ending : Ending) (site : Site) :
    Nat → Option Node → List (Field σ) → List Node → σ → Except Failure σ
  | taken, last, [], rest, s => do
    excess site taken last rest
    return s
  | taken, last, field :: fields, [], s => do
    close ending
    if field.optional then fieldsInOrder title count ending site (taken + 1) last fields [] s
    else
      let cause := .wrongLength taken (title ++ " with " ++ counted count "element")
      match ending with
      | .closed stop => .error (.placed ⟨cause, stop⟩)
      | .broken flaw => .error (.placed flaw.reading)
  | taken, _, field :: fields, n :: ns, s => do
    fieldsInOrder title count ending site (taken + 1) (some n) fields ns (← field.read site n s)

/-- What is made of what has been read, as the bracket that ends at a place is left. -/
def finish (form : Form σ α) (ending : Ending) (s : σ) : Except Failure α := do
  close ending
  match ending with
  | .closed stop => (form.build s).mapError fun cause => .placed ⟨cause, stop⟩
  | .broken flaw => .error (.placed flaw.reading)

/-- A structure from the elements of an array. -/
def ofElements (form : Form σ α) (site : Site) (ns : List Node) (ending : Ending) :
    Except Failure α := do
  let s ← (fieldsInOrder form.title form.fields.length ending site 0 none form.fields ns
    form.blank).mapError Failure.fromArray
  finish form ending s

/-- A structure from the members of an object. -/
def ofMembers (form : Form σ α) (site : Site) (ms : List (Name × Node)) (ending : Ending) :
    Except Failure α := do
  let s ← (members form.fields site ms form.blank).mapError Failure.fromObject
  finish form ending s

/-- **A structure.**  `wanted` is what a node is told that is neither an array nor an object. -/
def structureOr (wanted : String) (form : Form σ α) : Reader α
  | site, .array start ns ending _ => do
    let site ← enter site start
    ofElements form site ns ending
  | site, .object start ms ending _ => do
    let site ← enter site start
    ofMembers form site ms ending
  | _, n => .error (mismatch wanted n)

/-- A structure, which a node of another form is told by its title. -/
def struct (form : Form σ α) : Reader α := structureOr form.title form

/-! ## Choices -/

/-- What a name is chosen with: nothing, given the tokens after the name, or a value. -/
inductive Payload where
  | none (following : List Token)
  | value (n : Node)

/-- The ways to read what a name is chosen with. -/
abbrev Variant (α : Type) := Site → Payload → Except Failure α

/-- A name that stands alone, or with null. -/
def unit (a : α) : Variant α
  | _, .none _ => .ok a
  | _, .value (.scalar .null _ _ _) => .ok a
  | site, .value n =>
    match site.stored, n with
    | true, .object _ [] _ _ => .ok a
    | _, _ => .error (mismatch "unit" n)

/-- A name with a value of some form. -/
def wrapped (r : Reader α) : Variant α
  | _, .none following => .error (.unplaced (.wrongType .unitVariant "newtype variant") following)
  | site, .value n => r site n

/-- A name with the fields of a structure. -/
def record (form : Form σ α) : Variant α
  | _, .none following => .error (.unplaced (.wrongType .unitVariant "struct variant") following)
  | site, .value n =>
    structureOr (if site.stored then "struct variant" else form.title) form site n

/-- The variant with a name that ends at a place. -/
def choose (variants : List (String × Variant α)) (key : String) (stop : Mark) :
    Except Failure (Variant α) :=
  match variants.lookup key with
  | some v => .ok v
  | none => .error (.placed ⟨.unknownVariant key (variants.map Prod.fst), stop⟩)

/-- The problem of an object without members where a name was to be chosen. -/
def nothingChosen : Ending → Problem
  | .closed stop => ⟨.expectedValue, stop⟩
  | .broken flaw => flaw.reading

/-- The end of an object after its only member. -/
def closeChoice : List Token → Except Failure Unit
  | [] => .ok ()
  | t :: _ =>
    match t.kind with
    | .closeObject => .ok ()
    | .finish => .error (.placed ⟨.endOfObject, t.start⟩)
    | _ => .error (.placed ⟨.expectedValue, t.start⟩)

/-- **A choice between named variants**, as the text goes by. -/
def choicePassing (variants : List (String × Variant α)) : Reader α
  | site, .scalar (.string s) _ stop following => do
    let v ← choose variants (← lift s) stop
    v site (.none following)
  | _, .object start [] ending _ => do
    let _ ← enter ⟨0 + 1, false⟩ start
    .error (.placed (nothingChosen ending))
  | site, .object start ((name, n) :: _) _ _ => do
    let site ← enter site start
    let v ← choose variants (← lift name.value) name.stop
    let a ← v site (.value n)
    closeChoice n.following
    return a
  | _, .missing flaw none => .error (.placed flaw.reading)
  | _, .missing _ (some stray) => .error (.placed ⟨.expectedValue, stray⟩)
  | _, .scalar _ start _ _ | _, .array start _ _ _ =>
    .error (.placed ⟨.expectedValue, start.plus 1⟩)

/-- A choice between named variants, out of the store. -/
def choiceStored (variants : List (String × Variant α)) : Reader α
  | site, .scalar (.string s) _ stop following => do
    let v ← choose variants (← lift s) stop
    v site (.none following)
  | site, .object _ [(name, n)] _ _ => do
    let v ← choose variants (← lift name.value) name.stop
    v site (.value n)
  | _, .object start _ _ _ =>
    .error (.placed ⟨.wrongValue .map "map with a single key", start⟩)
  | _, n => .error (mismatch "string or map" n)

/-- **A choice between named variants.** -/
def choice (variants : List (String × Variant α)) : Reader α := fun site n =>
  if site.stored then choiceStored variants site n else choicePassing variants site n

/-! ## Tagged forms -/

/-- What stands beside a tag. -/
inductive Content where
  | elements (ns : List Node)
  | members (ms : List (Name × Node))

/-- A tag: a name, or, out of the store, also its number. -/
def tag (names : List String) : Reader Nat
  | _, .scalar (.string s) _ stop _ => do
    let s ← lift s
    match names.findIdx? (· = s) with
    | some i => .ok i
    | none => .error (.placed ⟨.unknownVariant s names, stop⟩)
  | ⟨_, true⟩, .scalar (.number (.ok (.int (.ofNat i)))) _ stop _ =>
    if i < names.length then .ok i
    else .error (.placed ⟨.wrongValue (.integer i)
      ("variant index 0 <= i < " ++ toString names.length), stop⟩)
  | _, n => .error (mismatch "variant identifier" n)

/-- Looks for the tag among members, and takes in the others. -/
def tagAmong (names : List String) (site : Site) :
    List (Name × Node) → Option Nat → Except Failure (Option Nat)
  | [], t => .ok t
  | (name, n) :: rest, t => do
    let key ← lift name.value
    if key = "kind" then
      if t.isSome then .error (.unplaced (.repeatedField "kind") name.following)
      else tagAmong names site rest (some (← tag names site n))
    else
      store site n
      tagAmong names site rest t

/-- Takes in elements. -/
def storeAll (site : Site) : List Node → Except Failure Unit
  | [] => .ok ()
  | n :: ns => do
    store site n
    storeAll site ns

/-- The tag of a node and what stands beside it. -/
def split (title : String) (names : List String) : Site → Node →
    Except Failure (Nat × Content)
  | _, .array _ [] (.closed stop) _ => .error (.placed ⟨.missingField "kind", stop⟩)
  | site, .array start [] (.broken flaw) _ => do
    let _ ← enter site start
    .error (.placed flaw.reading)
  | site, .array start (n :: ns) ending _ => do
    let site ← enter site start
    let i ← (tag names site n).mapError Failure.fromArray
    storeAll site ns
    close ending
    return (i, .elements ns)
  | site, .object start ms ending _ => do
    let site ← enter site start
    let i ← (tagAmong names site ms none).mapError Failure.fromObject
    close ending
    match i, ending with
    | some i, _ => return (i, .members ms)
    | none, .closed stop => .error (.placed ⟨.missingField "kind", stop⟩)
    | none, .broken flaw => .error (.placed flaw.reading)
  | _, n => .error (mismatch title n)

/-- The fields of a structure beside its tag. -/
def beside (form : Form σ α) (content : Content) : Except Failure α :=
  match content with
  | .elements ns => ofElements form ⟨0, true⟩ ns (.closed .first)
  | .members ms => ofMembers form ⟨0, true⟩ ms (.closed .first)

/-- Nothing beside a tag, or an object with any members. -/
def bare (a : α) : Content → Except Failure α
  | .elements ns =>
    if ns.isEmpty then .ok a
    else .error (.unplaced (.wrongLength ns.length "0 elements in sequence") [])
  | .members _ => .ok a

/-- **A tagged form**, by the ways to read what stands beside each tag. -/
def tagged (title : String) (variants : List (String × (Content → Except Failure α))) :
    Reader α := fun site n => do
  let (i, content) ← split title (variants.map Prod.fst) site n
  match variants[i]? with
  | some (_, r) => (r content).mapError (Failure.fromStore n.following)
  | none => .error (.unplaced (.missingField "kind") n.following)

end Reader

/-- How many levels of arrays and objects may nest. -/
def maxDepth : Nat := 127

/-- **Reads a text**, all of it, as a value. -/
def read {α : Type} (r : Reader α) (text : String) : Except ReadError α :=
  let n := Node.ofText text
  match r ⟨maxDepth, false⟩ n with
  | .error f => .error f.toReadError
  | .ok a =>
    match n.following with
    | [] => .ok a
    | t :: _ =>
      match t.kind with
      | .finish => .ok a
      | _ => .error ⟨.trailingText, some t.noticed⟩

end Json

end DiffContents
