/-!
Comparison and change of letter case for ASCII letters only; every other
character stands for itself.
-/

namespace LoadTest.Text

/-- A text with its ASCII capitals made small. -/
def foldCase (text : String) : List Char := text.toList.map Char.toLower

/-- Equality up to the case of ASCII letters. -/
def sameIgnoringCase (first second : String) : Bool := foldCase first == foldCase second

theorem sameIgnoringCase_iff {first second : String} :
    sameIgnoringCase first second = true ↔ foldCase first = foldCase second := by
  simp [sameIgnoringCase]

theorem sameIgnoringCase_comm (first second : String) :
    sameIgnoringCase first second = sameIgnoringCase second first := by
  rw [Bool.eq_iff_iff, sameIgnoringCase_iff, sameIgnoringCase_iff, eq_comm]

theorem sameIgnoringCase_congr {first second : String}
    (same : sameIgnoringCase first second = true) (other : String) :
    sameIgnoringCase first other = sameIgnoringCase second other := by
  rw [Bool.eq_iff_iff, sameIgnoringCase_iff, sameIgnoringCase_iff, sameIgnoringCase_iff.1 same]

def upperAscii (text : List Char) : List Char := text.map Char.toUpper

end LoadTest.Text
