/-!
# Texts in pieces

A text is cut at every occurrence of one character. There is always one piece more than there are
cuts, so two marks side by side have an empty piece between them.
-/

namespace Multipath.Text

/-- The pieces between the marks. -/
def pieces (mark : Char) : List Char → List (List Char)
  | [] => [[]]
  | c :: rest =>
    if c = mark then [] :: pieces mark rest
    else match pieces mark rest with
      | [] => [[c]]
      | first :: others => (c :: first) :: others

def split (mark : Char) (text : String) : List String :=
  (pieces mark text.toList).map String.ofList

theorem length_pieces (mark : Char) (cs : List Char) :
    (pieces mark cs).length = cs.count mark + 1 := by
  induction cs with
  | nil => rfl
  | cons c rest ih =>
      by_cases h : c = mark
      · simp [pieces, h, ih]
      · cases hp : pieces mark rest with
        | nil => simp [hp] at ih
        | cons first others => simp_all [pieces]

end Multipath.Text
