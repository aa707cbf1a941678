import EntityStore.Text.Basic
import EntityStore.Text.LetterCase

/-!
# Words of a name

A compound name is cut into words: at every character that is neither letter nor number, between a small and a
capital letter, and before the last capital of a run that a small letter follows.  Numbers belong to the word in
which they stand and do not change whether it is in small or in capital letters.
-/

namespace EntityStore.Text

/-- The case in which the current word was last seen. -/
inductive WordCase where
  | undecided
  | small
  | capital
  deriving DecidableEq

/-- Cuts a run of letters and numbers.  The word under way is held in reverse. -/
def cutWords (case : WordCase) (word : Text) : Text → List Text
  | [] => if word = [] then [] else [word.reverse]
  | [c] => [(c :: word).reverse]
  | c :: next :: rest =>
    let now := if isSmall c then .small else if isCapital c then .capital else case
    if now = .small ∧ isCapital next then
      (c :: word).reverse :: cutWords .undecided [] (next :: rest)
    else if case = .capital ∧ isCapital c ∧ isSmall next then
      word.reverse :: cutWords .undecided [c] (next :: rest)
    else cutWords now (c :: word) (next :: rest)

/-- The words of a name. -/
def words (name : Text) : List Text :=
  (name.splitOnP fun c => !isAlphanumeric c).flatMap (cutWords .undecided [])

/-- A text in small letters; a capital sigma at its end takes the form that it has at the end of a word. -/
def toSmallLetters : Text → Text
  | [] => []
  | [c] => if c = 'Σ' then ['ς'] else toSmall c
  | c :: next :: rest => toSmall c ++ toSmallLetters (next :: rest)

/-- A word with its first letter capital and the others small. -/
def capitalize : Text → Text
  | [] => []
  | c :: rest => toCapital c ++ toSmallLetters rest

/-- The name in upper camel case: its words capitalized and joined. -/
def upperCamel (name : Text) : Text :=
  (words name).flatMap capitalize

end EntityStore.Text
