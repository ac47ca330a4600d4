import DiffContents.Term

/-!
# Display names

A term is named against the source it was parsed from.  A function is named by its identifier;
a method by its identifier too, qualified by the receiver it is declared on; everything else by
the text it covers.

A receiver that is a single parameter with a declared type qualifies by that type, as in
`(Server) Start`; any other receiver by its text, as in `self.start`.
-/

namespace DiffContents

namespace Term

/-- The text of a term in its source. -/
def text (source : String) (t : Term) : String := Source.text source t.span

/-- The declared type of a receiver: the type of a parameter, or of the only parameter of a
bracketed list. -/
def declaredType? : Term → Option Term
  | mk _ _ (.indexed [mk _ _ (.parameter _ type)]) => type
  | mk _ _ (.parameter _ type) => type
  | _ => none

/-- **The display name of a term** in its source. -/
def displayName (source : String) : Term → String
  | mk _ _ (.function identifier _ _) => displayName source identifier
  | mk _ _ (.method none identifier _ _) => displayName source identifier
  | mk _ _ (.method (some (mk _ _ (.indexed [mk _ _ (.parameter _ (some type))]))) identifier _ _) =>
    "(" ++ displayName source type ++ ") " ++ displayName source identifier
  | mk _ _ (.method (some (mk _ _ (.parameter _ (some type)))) identifier _ _) =>
    "(" ++ displayName source type ++ ") " ++ displayName source identifier
  | mk _ _ (.method (some receiver) identifier _ _) =>
    receiver.text source ++ "." ++ displayName source identifier
  | t => t.text source

end Term

end DiffContents
