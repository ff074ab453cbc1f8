/-!
# Lines

Cutting a sequence of characters or of bytes into lines. A line ends at a line feed; a carriage
return just before it belongs to the end. What is left after the last line feed is a line too, unless
nothing is left.
-/

namespace EdgeAlert.Text

variable {α : Type} [DecidableEq α]

def completeLines (newline : α) : List α → List (List α) × List α
  | [] => ([], [])
  | c :: cs =>
    let (done, left) := completeLines newline cs
    if c = newline then ([] :: done, left)
    else match done with
      | [] => ([], c :: left)
      | line :: done => ((c :: line) :: done, left)

def dropReturn (carriage : α) (line : List α) : List α :=
  if line.getLast? = some carriage then line.dropLast else line

def lines (newline carriage : α) (cs : List α) : List (List α) :=
  let (done, left) := completeLines newline cs
  done.map (dropReturn carriage) ++ if left = [] then [] else [left]

def ofUtf8? (bytes : List UInt8) : Option String := String.fromUTF8? ⟨bytes.toArray⟩

end EdgeAlert.Text
