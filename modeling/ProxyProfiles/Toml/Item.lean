/-!
# Contents of a TOML document

Of the values only texts, lists and tables are told apart; numbers, truth values and dates are
all *scalars*. A table remembers how it came to be, since that decides whether it may be
mentioned again.
-/

namespace ProxyProfiles.Toml

/-- How a table came to be. -/
inductive Form where
  /-- It lies on the way to a table with a header. -/
  | implied
  /-- It lies on the way to a dotted key. -/
  | dotted
  /-- It has a header of its own, or is the whole document. -/
  | header
  /-- It is written between braces. -/
  | inline
deriving DecidableEq, Repr

/-- A value or a table. -/
inductive Item where
  /-- A text. -/
  | text (s : String)
  /-- A number, a truth value or a date. -/
  | scalar
  /-- A list of values. -/
  | array (items : List Item)
  /-- A table. -/
  | table (form : Form) (members : List (String × Item))
  /-- A list of tables with headers, the last and those before it. -/
  | tables (last : List (String × Item)) (before : List (List (String × Item)))

/-- Named items. -/
abbrev Members := List (String × Item)

/-- Named items with one of them replaced or added. -/
def Members.put (k : String) (i : Item) : Members → Members
  | [] => [(k, i)]
  | (k', i') :: ms => if k' = k then (k, i) :: ms else (k', i') :: put k i ms

/-- Goes down a path of tables, changes the table at its end, and gives the tables on the way
with it. Missing tables are made. Nothing leads through a value. A dotted path does not lead
through a table with a header of its own either, but does through a list of tables, to its last
one. -/
def Members.alter (dotted : Bool) (f : Form → Members → Option Members) :
    List String → Form → Members → Option Members
  | [], form, ms => f form ms
  | k :: ks, _, ms =>
    match ms.lookup k with
    | none => do
      let form := if dotted then Form.dotted else Form.implied
      return put k (.table form (← alter dotted f ks form [])) ms
    | some (.table form sub) =>
      if form = .inline ∨ (dotted ∧ form = .header) then none
      else do return put k (.table form (← alter dotted f ks form sub)) ms
    | some (.tables last before) => do
      return put k (.tables (← alter dotted f ks .header last) before) ms
    | some _ => none

/-- Adds a member that is not there yet. -/
def Members.insert? (k : String) (i : Item) (ms : Members) : Option Members :=
  if (ms.lookup k).isSome then none else some (ms ++ [(k, i)])

/-- Adds a value under a dotted key. A table with a header of its own gets no members by dotted
keys from outside. -/
def Members.assign (path : List String) (k : String) (i : Item) (form : Form) (ms : Members) :
    Option Members :=
  alter true (fun reached ms => if path ≠ [] ∧ reached ≠ .dotted then none else insert? k i ms)
    path form ms

end ProxyProfiles.Toml
