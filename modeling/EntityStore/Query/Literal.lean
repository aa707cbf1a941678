import EntityStore.Error
import EntityStore.Text.Quoted

/-!
# Literals

How values stand in a statement: truth values and numbers bare, everything with a text of its own quoted.  Null,
bytes, lists and doubles that are not finite have no literal.

The leaves of a list are written in batches of at most two thousand, each joined by commas, because a database
limits the length of one list.
-/

namespace EntityStore

/-- The literal of a value. -/
def Value.literal : Value → Except Error Text
  | .null => .error (.unsupportedType .nullLiteral)
  | .bytes _ => .error (.unsupportedType .binaryLiteral)
  | .list _ => .error (.unsupportedType .listLiteral)
  | .bool b => .ok (if b then ['1'] else ['0'])
  | .int i => .ok (Text.ofInt i.toInt)
  | .uint u => .ok (Text.ofNat u.toNat)
  | .decimal d => .ok d.toText
  | .double d => if d.isFinite then .ok d.toText else .error (.unsupportedType (.notFinite d))
  | .string t | .xml t => .ok (Text.quote t)
  | .char c => .ok (Text.quote [c])
  | .dateTime t => .ok (Text.quote t.toText)
  | .offsetDateTime t => .ok (Text.quote t.toText)
  | .guid g => .ok (Text.quote g.toText)
  | .timeSpan s => .ok (Text.quote s.toText)

/-- The greatest number of literals in one batch. -/
def batchSize : Nat := 2000

/-- Cuts a list into pieces of `size + 1` elements; only the last may be shorter, and none is empty. -/
def cutAfter {α : Type} (size : Nat) : List α → List (List α)
  | [] => []
  | a :: rest => (a :: rest.take size) :: cutAfter size (rest.drop size)
  termination_by l => l.length
  decreasing_by
    rw [List.length_drop, List.length_cons]
    omega

/-- The literals of all leaves of a value in order. -/
def Value.literals (v : Value) : Except Error (List Text) :=
  v.leaves.mapM Value.literal

/-- The literals of all leaves of a value in comma-separated batches. -/
def Value.literalBatches (v : Value) : Except Error (List Text) :=
  v.literals.map fun literals => (cutAfter (batchSize - 1) literals).map (Text.joinWith ", ".toList)

end EntityStore
